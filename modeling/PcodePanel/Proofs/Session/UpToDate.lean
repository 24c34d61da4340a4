import PcodePanel.Proofs.Session.Move
import PcodePanel.Proofs.Unique.Decoding

/-!
# Displays that are up to date

A loaded panel shows a thread of an emulator: the listing of its frame, the text of its instruction
and the temporaries with their values. It is *up to date* as long as nobody writes the bytes of that
thread: then each entry is what decoding it again would give, in whatever data type it has.

* `Panel.UpToDate` — the panel shows a thread as it is now;
* `Session.Faithful` — a loaded panel is up to date with some thread;
* `Session.Spares` — an operation does not write what the panel shows;
* `Session.faithful_performAll` — a run that spares what is shown keeps the panel faithful, and what
  it shows anew is so whatever was written before.
-/

namespace PcodePanel

namespace Panel

/-- The panel shows a thread of an emulator as it is. The entries may have data types; decoding them
again would change nothing, and neither would the values be refused without the types. -/
structure UpToDate (indent : Option Bool) (memories : MemoryId → Memory) (emulator : Emulator)
    (thread : EmulatedThread) (frame : Frame) (panel : Panel) : Prop where
  focused : panel.current.thread.bind emulator.thread? = some thread
  decoded : thread.frame = some frame
  listed : ∃ listing, Listing.ofFrame emulator.language frame indent = .ok listing
    ∧ panel.rows = listing.rows ∧ panel.nextRow = listing.nextRow
  label : panel.label = thread.instruction
  source : panel.source = some ⟨emulator.language, thread.memory⟩
  subjects : panel.uniques.map Unique.Entry.subject
    = (Unique.collect frame).map Unique.Entry.subject
  entries : ∀ entry ∈ panel.uniques,
    entry.decode (memories thread.memory) emulator.language = .ok entry
  decodable : ∃ fresh, Unique.decodeAll (Unique.collect frame) (memories thread.memory)
    emulator.language = .ok fresh

variable {indent : Option Bool} {memories memories' : MemoryId → Memory} {emulator : Emulator}
  {thread : EmulatedThread} {frame : Frame} {path : String} {p p' : Panel}

/-- Being up to date looks only at the focused thread, what is shown and the bytes of the thread. -/
theorem UpToDate.congr (h : p.UpToDate indent memories emulator thread frame)
    (current : p'.current.thread = p.current.thread) (rows : p'.rows = p.rows)
    (nextRow : p'.nextRow = p.nextRow) (label : p'.label = p.label)
    (source : p'.source = p.source) (uniques : p'.uniques = p.uniques)
    (bytes : memories' thread.memory = memories thread.memory) :
    p'.UpToDate indent memories' emulator thread frame := by
  refine ⟨?_, h.decoded, ?_, label.trans h.label, source.trans h.source, ?_, ?_, ?_⟩
  · rw [current]
    exact h.focused
  · rw [rows, nextRow]
    exact h.listed
  · rw [uniques]
    exact h.subjects
  · rw [uniques, bytes]
    exact h.entries
  · rw [bytes]
    exact h.decodable

/-- What is shown anew is up to date. -/
theorem Shown.upToDate (shown : Shown indent memories emulator path p p')
    (focused : p.current.thread = some path) (loaded : p'.state = .loaded) :
    ∃ thread frame, p'.UpToDate indent memories emulator thread frame := by
  cases shown with
  | missing | undecoded => cases loaded
  | @decoded thread frame listing uniques found hasFrame listed values =>
      refine ⟨thread, frame, ?_, hasFrame, ⟨listing, listed, rfl, rfl⟩, rfl, rfl,
        Unique.subjects_decodeAll values, Unique.decode_of_mem_decodeAll values, uniques, values⟩
      show p.current.thread.bind emulator.thread? = some thread
      rw [focused]
      exact found

/-- Giving a data type to an entry, or taking it away, leaves the panel up to date. -/
theorem UpToDate.assign (h : p.UpToDate indent memories emulator thread frame) {index : Int}
    {type : Option DataType} {catalog catalog' : Catalog} {updated : Unique.Entry}
    (done : p.assign index type catalog memories = (.ok (updated, p'), catalog')) :
    p'.UpToDate indent memories emulator thread frame := by
  obtain ⟨source, position, entry, loaded, there, assigned, rfl⟩ := assign_eq_ok done
  rw [h.source] at loaded
  cases loaded
  refine ⟨h.focused, h.decoded, h.listed, h.label, h.source, ?_, ?_, h.decodable⟩
  · exact (Unique.subjects_set there (Unique.Entry.subject_assign assigned)).trans h.subjects
  · intro other member
    rcases List.mem_or_eq_of_mem_set member with old | rfl
    · exact h.entries other old
    · exact Unique.Entry.decode_assign assigned

end Panel

namespace Session

variable {allowed : Operation → Prop} {held held' : List RequestId} {id : RequestId}
  {s s' : Session}

/-- A loaded panel shows a thread as it is. -/
def Faithful (s : Session) : Prop :=
  s.panel.state = .loaded → ∃ emulator thread frame,
    s.panel.UpToDate s.config.indent s.memory emulator thread frame

namespace Faithful

theorem ofStart (start : s.IsStart) : Faithful s := by
  obtain ⟨config, service, delivery, manager, catalog, log, memories, rfl⟩ := start.eq
  exact nofun

/-- Faithfulness looks only at what is shown, and at the bytes. -/
theorem congr (h : Faithful s) (panel : s'.panel = s.panel) (config : s'.config = s.config)
    (memories : s'.memories = s.memories) : Faithful s' := by
  have memory : s'.memory = s.memory := by
    funext place
    rw [Session.memory, Session.memory, memories]
  rw [Faithful, panel, config, memory]
  exact h

/-- A reload is faithful, whatever was shown before. -/
theorem ofReloaded (reloaded : Reloaded s s') : Faithful s' := by
  intro loaded
  cases reloaded with
  | nothing | wait | ask => cases loaded
  | placeholder plan =>
      obtain ⟨_, _, ⟨_, rfl, _⟩ | ⟨_, _, rfl, _⟩⟩ := plan_eq_placeholder_iff.mp plan
      · cases loaded
      · cases loaded
  | @display emulator path panel _ focused shown => exact ⟨emulator, shown.upToDate focused loaded⟩

/-- So is a delivery. -/
theorem ofDelivered (delivered : Delivered s id s') : Faithful s' := by
  cases delivered with
  | failed => exact nofun
  | @applied request emulator path panel log _ _ _ focused shown =>
      intro loaded
      rw [forget_eq] at shown
      exact ⟨emulator, shown.upToDate focused loaded⟩
  | stale _ _ reloaded => exact ofReloaded reloaded

/-- What services do and what is delivered keeps the panel faithful. -/
theorem move (unattended : ¬ Attended allowed) (move : Move allowed ⟨held, s⟩ ⟨held', s'⟩)
    (h : Faithful s) : Faithful s' := by
  cases move with
  | aside attended | refresh attended | assign attended | load attended | focus attended
  | rewire attended => exact absurd attended unattended
  | keep | evict | takeUp | giveUp | finish | cancel => exact h.congr rfl rfl rfl
  | deliver _ delivered => exact ofDelivered delivered

theorem activate {coordinates : Coordinates} (h : Faithful s)
    (smooth : (s.activate coordinates).2 = none) : Faithful (s.activate coordinates).1 := by
  by_cases same : s.panel.current.sameAs coordinates = true
  · rw [activate_of_sameAs same]
    intro loaded
    obtain ⟨emulator, thread, frame, upToDate⟩ := h loaded
    exact ⟨emulator, thread, frame, upToDate.congr (Coordinates.sameAs_iff.mp same).2.2.symm rfl
      rfl rfl rfl rfl rfl⟩
  · obtain ⟨log, reloaded⟩ := reloaded_of_activate (Bool.eq_false_iff.mpr same) smooth
    exact ofReloaded reloaded

theorem stepTo {time : Option Schedule} (h : Faithful s) (smooth : (s.stepTo time).2.isOk = true) :
    Faithful (s.stepTo time).1 := by
  cases time with
  | none => exact h
  | some time =>
      have done := answer_isOk smooth
      rw [Session.stepTo, answer_fst]
      unfold activateTime at done ⊢
      split at done
      · exact h.activate done
      · exact h.congr rfl rfl rfl
      · exact activate (h.congr rfl rfl rfl) done

theorem assign {index : Int} {type : Option DataType} (h : Faithful s) :
    Faithful (s.assign index type).1 := by
  unfold Session.assign
  split
  · exact h.congr rfl rfl rfl
  · next entry panel catalog done =>
    intro loaded
    have unchanged : panel.state = s.panel.state := by
      obtain ⟨_, _, _, _, _, _, rfl⟩ := Panel.assign_eq_ok done
      rfl
    obtain ⟨emulator, thread, frame, upToDate⟩ := h (unchanged.symm.trans loaded)
    exact ⟨emulator, thread, frame, upToDate.assign done⟩

/-- Writing other bytes than those of the thread that is shown. -/
theorem write {place : MemoryId} {varnode : Varnode} {content : Memory.Content} (h : Faithful s)
    (spared : ∀ source, s.panel.source = some source → source.memory ≠ place) :
    Faithful (s.write place varnode content).1 := by
  unfold Session.write
  split
  · exact h
  · intro loaded
    obtain ⟨emulator, thread, frame, upToDate⟩ := h loaded
    refine ⟨emulator, thread, frame, upToDate.congr rfl rfl rfl rfl rfl rfl ?_⟩
    have other : place ≠ thread.memory := (spared _ upToDate.source).symm
    show (s.memories.set place _).getD thread.memory {} = s.memories.getD thread.memory {}
    rw [List.getD_eq_getElem?_getD, List.getElem?_set_ne other, ← List.getD_eq_getElem?_getD]

end Faithful

/-- The operation does not write the bytes of the thread that is shown. -/
def Spares (s : Session) : Operation → Prop
  | .write place _ _ => ∀ source, s.panel.source = some source → source.memory ≠ place
  | _ => True

/-- Neither does any operation of a run. -/
def SparesAll (s : Session) : List Operation → Prop
  | [] => True
  | operation :: operations => s.Spares operation ∧ (s.perform operation).1.SparesAll operations

theorem Faithful.perform {operation : Operation} (h : Faithful s) (sound : Sound [] s)
    (idle : s.Idle) (smooth : s.Smooth operation) (spares : s.Spares operation) :
    Faithful (s.perform operation).1 := by
  -- What is not done in the foreground is made of moves that are not.
  have background : operation.isForeground = false → Faithful (s.perform operation).1 := by
    intro own
    have unattended : ¬ Attended (· = operation) := by
      rintro ⟨_, rfl, foreground⟩
      rw [own] at foreground
      cases foreground
    have leads : Leads (· = operation) _ _ := perform_leads rfl sound idle smooth
    exact leads.moves.keep (P := fun _ s => Faithful s) (fun _ => Faithful.move unattended) sound h
  cases operation with
  | activate coordinates =>
      rw [Session.perform, answer_fst]
      exact h.activate (answer_isOk smooth)
  | setService service =>
      rw [Session.perform, answer_fst]
      obtain ⟨log, reloaded⟩ := reloaded_of_setService (answer_isOk smooth)
      exact .ofReloaded reloaded
  | load =>
      rw [Session.perform, answer_fst]
      exact .ofReloaded (reloaded_of_reload (Prod.ext rfl (answer_isOk smooth)))
  | stepForward | stepBackward => exact h.stepTo smooth
  | assign index type => exact h.assign
  | write place varnode content =>
      rw [Session.perform, answer_fst]
      exact h.write spares
  | clearLog => exact h.congr rfl rfl rfl
  | add | complete | fail | cancel | evict | provide | release | drain => exact background rfl

/-- **What is shown stays up to date.** A smooth run that spares what is shown leaves a panel that
is up to date if it is loaded. -/
theorem faithful_performAll {operations : List Operation} (h : Faithful s) (sound : Sound [] s)
    (idle : s.Idle) (smooth : s.RunsSmoothly operations) (spares : s.SparesAll operations) :
    Faithful (s.performAll operations) := by
  induction operations generalizing s with
  | nil => exact h
  | cons operation operations ih =>
      obtain ⟨first, rest⟩ := smooth
      obtain ⟨spared, others⟩ := spares
      have leads : Leads (fun _ => True) _ _ := perform_leads trivial sound idle first
      exact ih (h.perform sound idle first spared) (leads.moves.sound sound) leads.idle rest others

end Session

end PcodePanel
