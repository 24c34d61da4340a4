import PcodePanel.Proofs.Display.Following

/-!
# Formatters and listings

A formatter builds rows call by call and a listing is a recursion over the templates, but they make
the same of a frame, and they refuse the same frames for the same reasons.

* `Listing.discard_walk` — whether a walk comes to its end depends on the templates alone;
* `Formatter.format_snd` — what a formatter makes is the listing, faults included;
* `Formatted.ofFrame` — what a new formatter makes of a frame by the templates of its code.
-/

namespace PcodePanel

/-- What a listing and a formatter both say of a frame. -/
def Listing.formatted (listing : Listing) : Formatted :=
  ⟨listing.rows, listing.nextRow⟩

/-- What a new formatter makes of a frame by the templates of the frame's own code. -/
def Formatted.ofFrame (language : Language) (frame : Frame) (indent : Option Bool) :
    Except Fault Formatted := do
  (← Formatter.ofFrame language frame indent).format.2

/-! ## Refused templates -/

namespace Listing

/-- Whether a walk comes to its end, and if not why, is decided by showing the templates that are
kept one after the other. -/
theorem discard_walk {legend : Legend} {current : Int} {templates : List Template} :
    ∀ (code : List MicroOp) (position : Nat) (before : Option Nat),
      (walk legend current templates code position before).map (fun _ => ())
        = ((Template.kept templates code.length).mapM fun template =>
          Piece.tokens legend (template.pieces legend.language)).map fun _ => () := by
  have step : ∀ {α β γ δ : Type} {first : Except Fault α} {rest : Except Fault β}
      {others : Except Fault γ} {f : α → β → δ} {g : α → γ → List α},
      rest.map (fun _ => ()) = others.map (fun _ => ()) →
      (do return f (← first) (← rest)).map (fun _ => ())
        = (do return g (← first) (← others)).map (fun _ => ()) := by
    intro α β γ δ first rest others f g same
    cases first <;> cases rest <;> cases others <;> cases same <;> rfl
  induction templates with
  | nil => exact fun code position before => rfl
  | cons template templates ih =>
      intro code position before
      cases template with
      | label number =>
          have later := ih code (position + 1) before
          rw [Template.kept, List.mapM_cons]
          exact step later
      | op template =>
          cases code with
          | nil =>
              rw [walk]
              refine Eq.trans ?_ (ih [] position before)
              cases walk legend current templates [] position before <;> rfl
          | cons operation code =>
              rw [List.length_cons, Template.kept, List.mapM_cons]
              exact step (ih code (position + 1) _)

section Walk

variable {legend : Legend} {current : Int} {templates : List Template} {code : List MicroOp}
  {position : Nat} {before : Option Nat}

theorem canShow_of_walk {listing : Listing}
    (walked : walk legend current templates code position before = .ok listing) :
    ∀ template ∈ Template.kept templates code.length, template.CanShow legend := by
  have same := congrArg (Except.map fun _ => ()) walked
  rw [discard_walk] at same
  cases shown : (Template.kept templates code.length).mapM fun template =>
      Piece.tokens legend (template.pieces legend.language) with
  | ok tokens =>
      intro template member
      obtain ⟨_, _, shown⟩ := exists_of_mapM_eq_ok shown template member
      exact ⟨_, shown⟩
  | error fault =>
      rw [shown] at same
      cases same

/-- A walk ends early only at a template that cannot be shown. -/
theorem exists_of_walk_eq_error {fault : Fault}
    (refused : walk legend current templates code position before = .error fault) :
    ∃ template ∈ Template.kept templates code.length,
      Piece.tokens legend (template.pieces legend.language) = .error fault := by
  have same := congrArg (Except.map fun _ => ()) refused
  rw [discard_walk] at same
  cases shown : (Template.kept templates code.length).mapM fun template =>
      Piece.tokens legend (template.pieces legend.language) with
  | ok tokens =>
      rw [shown] at same
      cases same
  | error other =>
      rw [shown] at same
      cases same
      exact mapM_eq_error shown

end Walk

end Listing

/-! ## Formatters -/

namespace Formatter

/-- **Formatters and listings.** What a formatter makes, or why it makes nothing, is what becomes of
the listing, whatever the formatter has made before. -/
theorem format_snd (formatter : Formatter) :
    formatter.format.2 = (Listing.ofTemplates formatter.language formatter.frame
      formatter.templates (some formatter.indent)).map Listing.formatted := by
  cases listed : Listing.ofTemplates formatter.language formatter.frame formatter.templates
      (some formatter.indent) with
  | ok listing => exact (format_eq formatter listed).1
  | error fault =>
      have refused : Listing.walk formatter.legend formatter.frame.index formatter.templates
          formatter.frame.code 0 none = .error fault := bind_pure_eq_error_iff.mp listed
      have reaches := reaches_format formatter
      rw [refused] at reaches
      show Except.map _ (showAll _ _ _).2 = _
      generalize showAll _ _ _ = result at reaches ⊢
      cases reaches
      rfl

theorem format_ofTemplates (language : Language) (frame : Frame) (templates : List Template)
    (indent : Option Bool) :
    (ofTemplates language frame templates indent).format.2
      = (Listing.ofTemplates language frame templates indent).map Listing.formatted :=
  format_snd _

end Formatter

/-- A frame is formatted as it is listed. -/
theorem Formatted.ofFrame_eq (language : Language) (frame : Frame) (indent : Option Bool) :
    ofFrame language frame indent
      = (Listing.ofFrame language frame indent).map Listing.formatted := by
  unfold ofFrame Formatter.ofFrame Listing.ofFrame
  cases Template.ofOps frame.code with
  | error fault => rfl
  | ok templates => exact Formatter.format_ofTemplates language frame templates indent

end PcodePanel
