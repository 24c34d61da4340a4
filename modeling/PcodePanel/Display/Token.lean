/-!
# Tokens

A token is a piece of a row's text with the kind of thing that it shows. Its kind decides the
category that it is coloured by.
-/

namespace PcodePanel

/-- What a span of text shows; decides its colour. -/
inductive Category
  | address
  | register
  | scalar
  | unique
  | mnemonic
  | unimplemented
  | separator
  | lineLabel
  | space
  | raw
  | userop
  | indent
  | text
deriving DecidableEq, Repr

namespace Category

/-- The categories, in the order that style sheets list them. -/
def all : List Category :=
  [address, register, scalar, unique, mnemonic, unimplemented, separator, lineLabel, space, raw,
   userop, indent, text]

/-- The class that a style sheet knows a category by. -/
def styleClass : Category → String
  | address => "addr"
  | register => "reg"
  | scalar => "scalar"
  | unique => "loc"
  | mnemonic => "op"
  | unimplemented => "unimpl"
  | separator => "sep"
  | lineLabel => "lab"
  | space => "space"
  | raw => "raw"
  | userop => "usr"
  | indent => "indent"
  | text => "text"

/-- The category with a class. -/
def ofStyleClass? (name : String) : Option Category :=
  all.find? fun category => category.styleClass = name

theorem mem_all (category : Category) : category ∈ all := by
  cases category <;> decide

theorem ofStyleClass?_styleClass (category : Category) :
    ofStyleClass? category.styleClass = some category := by
  cases category <;> decide

end Category

/-- A text with its category. -/
abbrev Span := Category × String

/-- The kinds of tokens: one for each category, and the plain token, which is shown as text. -/
inductive TokenKind
  | plain
  | of (category : Category)
deriving DecidableEq, Repr

namespace TokenKind

/-- The category that a token of the kind is coloured by. -/
def category : TokenKind → Category
  | plain => .text
  | of category => category

/-- The name of a kind. -/
def label : TokenKind → String
  | plain => "Token"
  | of .address => "TAddr"
  | of .register => "TReg"
  | of .scalar => "TScalar"
  | of .unique => "TLocal"
  | of .mnemonic => "TMnemonic"
  | of .unimplemented => "TUnimpl"
  | of .separator => "TSep"
  | of .lineLabel => "TLineLabel"
  | of .space => "TSpace"
  | of .raw => "TRaw"
  | of .userop => "TUserop"
  | of .indent => "TIndent"
  | of .text => "TText"

/-- The kinds. -/
def all : List TokenKind :=
  plain :: Category.all.map of

/-- The kind with a name. -/
def ofLabel? (name : String) : Option TokenKind :=
  all.find? fun kind => kind.label = name

theorem mem_all (kind : TokenKind) : kind ∈ all := by
  cases kind with
  | plain => exact List.mem_cons_self
  | of category => exact List.mem_cons_of_mem _ (List.mem_map_of_mem category.mem_all)

theorem ofLabel?_label (kind : TokenKind) : ofLabel? kind.label = some kind := by
  rcases kind with _ | category
  · decide
  · cases category <;> decide

end TokenKind

/-- A piece of a row's text. -/
structure Token where
  kind : TokenKind
  text : String
deriving DecidableEq, Repr

namespace Token

/-- A token of a category. -/
def of (category : Category) (text : String) : Token :=
  ⟨.of category, text⟩

/-- The token as a span. -/
def span (token : Token) : Span :=
  (token.kind.category, token.text)

/-- The token with its kind, for diagnosis. -/
def describe (token : Token) : String :=
  token.kind.label ++ "(" ++ token.text ++ ")"

end Token

/-- The text of a row of tokens. -/
def Token.textOf (tokens : List Token) : String :=
  String.join (tokens.map Token.text)

end PcodePanel
