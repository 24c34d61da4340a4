import PcodePanel.Proofs.Session.Showing

/-!
# The text of the instruction

A reload clears the text of the instruction before it carries out its plan. Only a plan that
displays an emulator sets it again, and it does so only if the emulator has the thread. So a panel
that already has the text of an emulator, or none, has the text of the emulator afterwards; over any
other text, a missing thread leaves what it finds.

* `Emulator.title`, `Plan.title` — the text that belongs to an emulator, and to a plan;
* `Panel.Shown.label`, `Session.Reloaded.label` — how a panel comes to have it.
-/

namespace PcodePanel

/-- The text of the instruction at which a thread stands. -/
def Emulator.title (emulator : Emulator) (path : String) : Option String :=
  (emulator.thread? path).bind EmulatedThread.instruction

theorem Emulator.title_of_thread {emulator : Emulator} {path : String} {thread : EmulatedThread}
    (found : emulator.thread? path = some thread) : emulator.title path = thread.instruction := by
  rw [title, found]
  rfl

/-- The text of the instruction that belongs to a plan for a thread. -/
def Plan.title (thread : Option String) : Plan → Option String
  | .display emulator => thread.bind emulator.title
  | .nothing | .placeholder .. | .wait | .ask _ => none

/-- What is shown of an emulator brings its text, over no text or over its own. -/
theorem Panel.Shown.label {indent : Option Bool} {memories : MemoryId → Memory}
    {emulator : Emulator} {path : String} {p p' : Panel}
    (shown : Shown indent memories emulator path p p')
    (before : p.label = none ∨ p.label = emulator.title path) :
    p'.label = emulator.title path := by
  cases shown with
  | missing absent =>
      -- A missing thread has no text and leaves the one that is there.
      have noTitle : emulator.title path = none := by
        rw [Emulator.title, absent]
        rfl
      rw [noTitle, or_self] at before
      exact before.trans noTitle.symm
  | undecoded found | decoded found => exact (Emulator.title_of_thread found).symm

namespace Session

variable {s s' : Session}

/-- A reload leaves the text of its plan. -/
theorem Reloaded.label (reloaded : Reloaded s s') :
    s'.panel.label = s.plan.title s.panel.current.thread := by
  cases reloaded with
  | nothing plan | placeholder plan | wait plan | ask plan =>
      rw [plan]
      rfl
  | display plan focused shown =>
      rw [plan, focused]
      exact shown.label (.inl rfl)

end Session

end PcodePanel
