import Mathlib.Data.List.Nodup
import PcodePanel.Display.Token
import PcodePanel.Pcode.Opcode
import PcodePanel.Proofs.Numeral.Reading
import PcodePanel.Proofs.Result

/-!
# Layouts

The spans of an operation's row are a small language: a name, and inputs with separators around
them. Names are arbitrary and may look like punctuation or like each other. But separators are of a
category of their own, so is what names an operation, and there is no comma within an input.

* `Opcode.mnemonic_inj` — no two opcodes have one mnemonic;
* `IsOperand` — what is known of the spans of an input;
* `Laid` — the ways in which inputs are laid out after the name;
* `Laid.unique` — a layout can be read in one way only.
-/

namespace PcodePanel

/-! ## Mnemonics -/

namespace Opcode

/-- The category of an opcode's mnemonic. -/
def category (opcode : Int) : Category :=
  if isUnimplemented opcode then .unimplemented else .mnemonic

theorem category_ne_userop (opcode : Int) : category opcode ≠ .userop := by
  unfold category
  split <;> simp

theorem nodup_names : (table.map Prod.snd).Nodup := by
  decide +kernel

/-- Only the mnemonics of unknown opcodes begin with a small letter. -/
theorem capital_of_mem : ∀ known ∈ table, known.2.toList.head? ≠ some 'u' := by
  decide +kernel

theorem mem_table {opcode : Int} {name : String} (known : name? opcode = some name) :
    (opcode, name) ∈ table := by
  obtain ⟨before, after, same, _⟩ := List.lookup_eq_some_iff.mp known
  rw [same]
  exact List.mem_append_right _ List.mem_cons_self

theorem mnemonic_eq_ok {opcode : Int} {name : String} (shown : mnemonic opcode = .ok name) :
    (opcode, name) ∈ table ∨ name = "unknown_" ++ Numeral.decimal opcode := by
  unfold mnemonic at shown
  split at shown
  · next known =>
    cases shown
    exact .inl (mem_table known)
  · obtain ⟨text, written, shown⟩ := bind_eq_ok_iff.mp shown
    obtain ⟨_, rfl⟩ := Numeral.write_eq_ok_iff.mp written
    cases shown
    exact .inr rfl

theorem unknown_notMem {opcode number : Int} :
    (opcode, "unknown_" ++ Numeral.decimal number) ∉ table := by
  intro known
  exact capital_of_mem _ known (by simp [String.toList_append])

/-- An opcode is known by its mnemonic. -/
theorem mnemonic_inj {opcode other : Int} {name : String} (first : mnemonic opcode = .ok name)
    (second : mnemonic other = .ok name) : opcode = other := by
  rcases mnemonic_eq_ok first with known | rfl
  · rcases mnemonic_eq_ok second with known' | rfl
    · exact congrArg Prod.fst (List.inj_on_of_nodup_map nodup_names known known' rfl)
    · exact absurd known unknown_notMem
  · rcases mnemonic_eq_ok second with known | same
    · exact absurd known unknown_notMem
    · have numerals := congrArg String.toList same
      rw [String.toList_append, String.toList_append] at numerals
      exact Numeral.written_inj (by decide : 1 < 10) (by decide)
        (List.append_cancel_left numerals)

end Opcode

/-! ## Layouts -/

/-- Whether spans of the category name an operation. -/
def Category.namesOperation : Category → Bool
  | mnemonic | unimplemented | userop => true
  | _ => false

@[simp] theorem Category.namesOperation_space : space.namesOperation = false := rfl

theorem Opcode.namesOperation_category (opcode : Int) :
    (category opcode).namesOperation = true := by
  unfold category
  split <;> rfl

namespace Span

/-- A separator. -/
def separator (text : String) : Span :=
  (.separator, text)

/-- Inputs with a comma and a blank between them. -/
def separated (inputs : List (List Span)) : List Span :=
  [separator ",", separator " "].intercalate inputs

/-- The same after a blank, if there are any. -/
def spaced : List (List Span) → List Span
  | [] => []
  | inputs => separator " " :: separated inputs

/-- The same after a comma and a blank, if there are any. -/
def followers : List (List Span) → List Span
  | [] => []
  | inputs => separator "," :: separator " " :: separated inputs

theorem separated_cons (input : List Span) (inputs : List (List Span)) :
    separated (input :: inputs) = input ++ followers inputs := by
  cases inputs with
  | nil => simp [separated, followers]
  | cons next inputs =>
      rw [separated, List.intercalate_cons_cons, List.append_assoc]
      rfl

end Span

open PcodePanel.Span (separator separated spaced followers separated_cons)

/-! ### Names -/

/-- No span among them names an operation. -/
def Unnamed (spans : List Span) : Prop :=
  ∀ span ∈ spans, span.1.namesOperation = false

@[simp] theorem unnamed_nil : Unnamed [] := by
  simp [Unnamed]

@[simp] theorem unnamed_cons {span : Span} {spans : List Span} :
    Unnamed (span :: spans) ↔ span.1.namesOperation = false ∧ Unnamed spans :=
  List.forall_mem_cons

@[simp] theorem unnamed_append {spans others : List Span} :
    Unnamed (spans ++ others) ↔ Unnamed spans ∧ Unnamed others :=
  List.forall_mem_append

@[simp] theorem namesOperation_separator (text : String) :
    (separator text).1.namesOperation = false := rfl

theorem unnamed_separated {inputs : List (List Span)} (each : ∀ input ∈ inputs, Unnamed input) :
    Unnamed (separated inputs) := by
  induction inputs with
  | nil => exact unnamed_nil
  | cons input inputs ih =>
      obtain ⟨here, later⟩ := List.forall_mem_cons.mp each
      rw [separated_cons, unnamed_append]
      refine ⟨here, ?_⟩
      cases inputs with
      | nil => exact unnamed_nil
      | cons => simpa [followers] using ih later

theorem unnamed_spaced {inputs : List (List Span)} (each : ∀ input ∈ inputs, Unnamed input) :
    Unnamed (spaced inputs) := by
  cases inputs with
  | nil => exact unnamed_nil
  | cons => simpa [spaced] using unnamed_separated each

/-! ### Inputs -/

/-- Spans that show an input or an output: there are some, none of them names an operation or is a
comma, and the first is not the name of a space. -/
structure IsOperand (spans : List Span) : Prop where
  nonempty : spans ≠ []
  unnamed : Unnamed spans
  comma : separator "," ∉ spans
  head : ∀ span ∈ spans.head?, span.1 ≠ .space

/-- The ways in which an operation and its inputs are laid out: with an opcode, the span that names
the operation, the spans of the inputs, and all spans that follow the name. -/
inductive Laid : Int → Span → List (List Span) → List Span → Prop
  /-- A user operation is called by its name, which is its first input. -/
  | call {name : String} {inputs : List (List Span)}
      (operands : ∀ input ∈ inputs, IsOperand input) :
      Laid Opcode.callOther (.userop, name) ([(.userop, name)] :: inputs)
        (separator "(" :: separated inputs ++ [separator ")"])
  /-- Memory is accessed at an address, in parentheses after the name of its space. -/
  | access {opcode : Int} {name space : String} {address : List Span} {values : List (List Span)}
      (mnemonic : Opcode.mnemonic opcode = .ok name) (place : IsOperand address)
      (operands : ∀ value ∈ values, IsOperand value) :
      Laid opcode (Opcode.category opcode, name) ([(.space, space)] :: address :: values)
        (spaced (((.space, space) :: separator "(" :: address ++ [separator ")"]) :: values))
  /-- Anything else is a list. -/
  | plain {opcode : Int} {name : String} {inputs : List (List Span)}
      (mnemonic : Opcode.mnemonic opcode = .ok name)
      (operands : ∀ input ∈ inputs, IsOperand input) :
      Laid opcode (Opcode.category opcode, name) inputs (spaced inputs)

/-- Commas between the inputs keep them apart: something is in each, and no comma. -/
def Separable (inputs : List (List Span)) : Prop :=
  ∀ input ∈ inputs, input ≠ [] ∧ separator "," ∉ input

theorem separable_of_operands {inputs : List (List Span)}
    (operands : ∀ input ∈ inputs, IsOperand input) : Separable inputs :=
  fun input member => ⟨(operands input member).nonempty, (operands input member).comma⟩

theorem separable_access {space : String} {address : List Span} {values : List (List Span)}
    (place : IsOperand address) (operands : ∀ value ∈ values, IsOperand value) :
    Separable (((.space, space) :: separator "(" :: address ++ [separator ")"]) :: values) := by
  refine List.forall_mem_cons.mpr ⟨⟨by simp, ?_⟩, separable_of_operands operands⟩
  simp only [List.cons_append, List.mem_cons, List.mem_append, List.not_mem_nil, or_false, not_or]
  exact ⟨by simp [separator], by simp [separator], place.comma, by simp [separator]⟩

/-- A blank before each input makes up for the one after each comma. -/
theorem blank_separated (input : List Span) (inputs : List (List Span)) :
    separator " " :: separated (input :: inputs)
      = [separator ","].intercalate ((input :: inputs).map (separator " " :: ·)) := by
  induction inputs generalizing input with
  | nil => simp [separated]
  | cons next inputs ih =>
      have later := ih next
      rw [List.map_cons] at later
      rw [separated, List.intercalate_cons_cons, List.map_cons, List.map_cons,
        List.intercalate_cons_cons, ← later]
      simp [separated]

/-- Inputs can be read off what stands after the name. -/
theorem spaced_inj {inputs others : List (List Span)} (first : Separable inputs)
    (second : Separable others) (same : spaced inputs = spaced others) : inputs = others := by
  have split : ∀ {input : List Span} {inputs : List (List Span)}, Separable (input :: inputs) →
      (spaced (input :: inputs)).splitOn (separator ",")
        = (input :: inputs).map (separator " " :: ·) := by
    intro input inputs separable
    show (separator " " :: separated (input :: inputs)).splitOn _ = _
    rw [blank_separated]
    refine List.splitOn_intercalate _ ?_ (by simp)
    intro spans member
    obtain ⟨input, inside, rfl⟩ := List.mem_map.mp member
    rw [List.mem_cons, not_or]
    exact ⟨by simp [separator], (separable input inside).2⟩
  cases inputs with
  | nil =>
      cases others with
      | nil => rfl
      | cons => cases same
  | cons input inputs =>
      cases others with
      | nil => cases same
      | cons other others =>
          have each := congrArg (List.splitOn (separator ",")) same
          rw [split first, split second] at each
          exact List.map_injective_iff.mpr List.cons_injective each

theorem separated_inj {inputs others : List (List Span)} (first : Separable inputs)
    (second : Separable others) (same : separated inputs = separated others) :
    inputs = others := by
  have some : ∀ {input : List Span} {inputs : List (List Span)}, Separable (input :: inputs) →
      separated (input :: inputs) ≠ [] := by
    intro input inputs separable none
    have nonempty := (separable input List.mem_cons_self).1
    cases inputs <;> simp_all [separated]
  cases inputs with
  | nil =>
      cases others with
      | nil => rfl
      | cons => exact absurd same.symm (some second)
  | cons =>
      cases others with
      | nil => exact absurd same (some first)
      | cons => exact spaced_inj first second (congrArg (separator " " :: ·) same)

/-- No list of operands begins as an access to memory does. -/
theorem spaced_access_ne {space : String} {address : List Span} {values inputs : List (List Span)}
    (place : IsOperand address) (operands : ∀ value ∈ values, IsOperand value)
    (others : ∀ input ∈ inputs, IsOperand input) :
    spaced (((.space, space) :: separator "(" :: address ++ [separator ")"]) :: values)
      ≠ spaced inputs := by
  intro same
  have inputs := spaced_inj (separable_access place operands) (separable_of_operands others) same
  subst inputs
  exact (others _ List.mem_cons_self).head _ rfl rfl

namespace Laid

variable {opcode other : Int} {head head' : Span} {inputs inputs' : List (List Span)}
  {tail tail' : List Span}

/-- **Layouts.** A layout can be read in one way only. -/
theorem unique (first : Laid opcode head inputs tail) (second : Laid other head' inputs' tail')
    (heads : head = head') (tails : tail = tail') : opcode = other ∧ inputs = inputs' := by
  -- The name tells calls from the rest, and the first span after it tells accesses from lists.
  cases first with
  | call operands =>
      cases second with
      | call operands' =>
          cases heads
          have inputs := List.append_cancel_right (List.cons.inj tails).2
          rw [separated_inj (separable_of_operands operands) (separable_of_operands operands')
            inputs]
          exact ⟨rfl, rfl⟩
      | access | plain =>
          exact absurd (congrArg Prod.fst heads).symm (Opcode.category_ne_userop _)
  | access mnemonic place operands =>
      cases second with
      | call => exact absurd (congrArg Prod.fst heads) (Opcode.category_ne_userop _)
      | access mnemonic' place' operands' =>
          obtain rfl := congrArg Prod.snd heads
          have inputs := spaced_inj (separable_access place operands)
            (separable_access place' operands') tails
          injection inputs with first values
          injection first with space first
          injection first with _ address
          rw [space, values, List.append_cancel_right address]
          exact ⟨Opcode.mnemonic_inj mnemonic mnemonic', rfl⟩
      | plain mnemonic' operands' =>
          exact absurd tails (spaced_access_ne place operands operands')
  | plain mnemonic operands =>
      cases second with
      | call => exact absurd (congrArg Prod.fst heads) (Opcode.category_ne_userop _)
      | access mnemonic' place' operands' =>
          exact absurd tails.symm (spaced_access_ne place' operands' operands)
      | plain mnemonic' operands' =>
          obtain rfl := congrArg Prod.snd heads
          exact ⟨Opcode.mnemonic_inj mnemonic mnemonic',
            spaced_inj (separable_of_operands operands) (separable_of_operands operands') tails⟩

theorem named (laid : Laid opcode head inputs tail) : head.1.namesOperation = true := by
  cases laid with
  | call => rfl
  | access | plain => exact Opcode.namesOperation_category _

/-- Nothing after the name names an operation. -/
theorem unnamed (laid : Laid opcode head inputs tail) : Unnamed tail := by
  cases laid with
  | call operands =>
      simpa using unnamed_separated fun input member => (operands input member).unnamed
  | access _ place operands =>
      refine unnamed_spaced (List.forall_mem_cons.mpr ⟨?_, ?_⟩)
      · simpa using place.unnamed
      · exact fun value member => (operands value member).unnamed
  | plain _ operands => exact unnamed_spaced fun input member => (operands input member).unnamed

end Laid

end PcodePanel
