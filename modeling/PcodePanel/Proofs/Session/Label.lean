import PcodePanel.Proofs.Display.NextRow
import PcodePanel.Proofs.Session.Live
import PcodePanel.Proofs.Session.Title

/-!
# Texts without an instruction

A reload clears the text of the instruction first, a late outcome does not. So a panel that shows no
instruction has no text either, but for one way: the emulator of a request was shown already when
the outcome of the request came in, and that is a failure, or an emulator without the thread. As
long as no key gets two outcomes that disagree about the thread, it does not happen.

* `Row.IsCode`, `Listing.isCode_ofFrame` — listings hold no placeholders;
* `Panel.Bears`, `Session.Named` — where the text of a panel comes from, and what is shown under it;
* `Session.Naming` — the invariant of all moves;
* `Session.title_of_label` — every text is of an emulator for what is followed;
* `Session.Lasting` — no outcome takes a thread back;
* `Session.noLabel_of_vacant` — the main result.
-/

namespace PcodePanel

/-! ## Rows of code -/

/-- The row is no placeholder. -/
def Row.IsCode : Row → Prop
  | placeholder .. => False
  | op .. | label .. | branch .. | fallthrough .. => True

theorem Row.not_isCode_ofKind {kind : PlaceholderKind} {detail : Option String} :
    ¬ (Row.ofKind kind detail).IsCode := id

/-- Placeholders of different kinds differ, whatever their details. -/
theorem Row.kind_of_ofKind {kind kind' : PlaceholderKind} {detail detail' : Option String}
    (same : [Row.ofKind kind detail] = [Row.ofKind kind' detail']) : kind = kind' :=
  (placeholder.inj (List.singleton_inj.mp same)).2.1

namespace Listing

theorem isCode_of_walk {legend : Legend} {current : Int} {templates : List Template}
    {code : List MicroOp} {position : Nat} {before : Option Nat} {listing : Listing}
    (walked : walk legend current templates code position before = .ok listing) :
    ∀ row ∈ listing.rows, row.IsCode := by
  refine walk_induction (motive := fun _ _ listing => ∀ row ∈ listing.rows, row.IsCode)
    ?_ ?_ ?_ ?_ walked
  · intro position before row member
    exact absurd member List.not_mem_nil
  · intro position before rest h
    exact h
  · intro position before tokens rest h
    exact List.forall_mem_cons.mpr ⟨trivial, h⟩
  · intro position before op isNext tokens rest _ h
    exact List.forall_mem_cons.mpr ⟨trivial, h⟩

theorem isCode_closing {frame : Frame} {position : Nat} :
    ∀ row ∈ closing frame position, row.IsCode := by
  intro row member
  unfold closing at member
  split_ifs at member
  · rw [List.mem_singleton.mp member]
    exact trivial
  · rw [List.mem_singleton.mp member]
    exact trivial
  · exact absurd member List.not_mem_nil

/-- A listing holds no placeholders. -/
theorem isCode_ofFrame {language : Language} {frame : Frame} {indent : Option Bool}
    {listing : Listing} (listed : ofFrame language frame indent = .ok listing) :
    ∀ row ∈ listing.rows, row.IsCode := by
  obtain ⟨templates, _, listed⟩ := bind_eq_ok_iff.mp listed
  obtain ⟨walked, ok, listed⟩ := bind_eq_ok_iff.mp listed
  cases listed
  intro row member
  rcases List.mem_append.mp member with inside | last
  · exact isCode_of_walk ok row inside
  · exact isCode_closing row last

end Listing

/-! ## What stands under a text -/

/-- What a panel may show under the text of an instruction: its code, that there is none, or that
its emulation failed. -/
inductive Panel.Bears (failed : Failure → Prop) (p : Panel) : Prop
  | code : p.state = .loaded → (∀ row ∈ p.rows, row.IsCode) → Bears failed p
  | undecoded : p.rows = [.ofKind .notDecoded none] → Bears failed p
  | failed {failure : Failure} : failed failure →
      p.rows = [.ofKind .emulationFailed (some failure.text)] → Bears failed p

/-- The rows say that nothing has been emulated: there is nothing to show, no thread, no result yet,
or nothing to decode. A frame may be listed without rows; then the panel is loaded. -/
inductive Panel.Vacant (p : Panel) : Prop
  | nothing : p.state ≠ .loaded → p.rows = [] → Vacant p
  | noThread {detail : Option String} : p.rows = [.ofKind .noThread detail] → Vacant p
  | loading {detail : Option String} : p.rows = [.ofKind .loading detail] → Vacant p
  | undecoded {detail : Option String} : p.rows = [.ofKind .notDecoded detail] →
      p.current.time.pticks = 0 → Vacant p

namespace Panel

variable {given : Failure → Prop} {p : Panel}

/-- Of the placeholders, two can stand under a text. -/
theorem Bears.kind_cases {kind : PlaceholderKind} {detail : Option String} (h : p.Bears given)
    (rows : p.rows = [.ofKind kind detail]) :
    kind = .notDecoded ∨ kind = .emulationFailed ∧ ∃ failure, given failure := by
  cases h with
  | code _ code =>
      rw [rows] at code
      exact absurd (code _ List.mem_cons_self) Row.not_isCode_ofKind
  | undecoded shown => exact .inl (Row.kind_of_ofKind (rows.symm.trans shown))
  | failed failed shown =>
      exact .inr ⟨Row.kind_of_ofKind (rows.symm.trans shown), _, failed⟩

/-- Where nothing has been emulated, no text can stand. -/
theorem Vacant.not_bears (vacant : p.Vacant) (askable : p.current.Askable) : ¬ p.Bears given := by
  intro bears
  cases vacant with
  | nothing notLoaded rows =>
      cases bears with
      | code loaded => exact notLoaded loaded
      | undecoded shown | failed _ shown =>
          rw [rows] at shown
          cases shown
  | noThread rows | loading rows =>
      rcases bears.kind_cases rows with same | ⟨same, _⟩ <;> cases same
  | undecoded _ undecoded => exact askable.2.2 undecoded

end Panel

namespace Session

variable {operations : List Operation} {held held' : List RequestId} {id : RequestId}
  {s s' t : Session} {p p' : Panel}

/-- A panel has no text, or that of an emulator which the service that is set now was handed for the
current key, and then it shows what came of that key. -/
inductive Named (operations : List Operation) (p : Panel) : Prop
  | noText : p.label = none → Named operations p
  | text {service : ServiceId} {emulator : Emulator} {path : String} :
      p.service = some service → p.current.Askable → p.current.thread = some path →
      Handed operations service p.current.key emulator → emulator.thread? path ≠ none →
      p.label = emulator.title path →
      p.Bears (fun failure => .fail service p.current.key failure ∈ operations) →
      Named operations p

namespace Named

/-- What stands under the text stays, and so does what is followed up to the stack level. -/
theorem congr (h : Named operations p) (service : p'.service = p.service)
    (current : p.current.sameAs p'.current = true) (label : p'.label = p.label)
    (state : p'.state = p.state) (rows : p'.rows = p.rows) : Named operations p' := by
  obtain ⟨trace, time, thread⟩ := Coordinates.sameAs_iff.mp current
  have key := Coordinates.key_of_sameAs current
  cases h with
  | noText none => exact .noText (label.trans none)
  | text live askable focused handed found title bears =>
      rw [key] at handed bears
      rw [Coordinates.Askable, trace, time, thread] at askable
      refine .text (service.trans live) askable (thread.symm.trans focused) handed found
        (label.trans title) ?_
      cases bears with
      | code loaded code => exact .code (state.trans loaded) (by rw [rows]; exact code)
      | undecoded shown => exact .undecoded (rows.trans shown)
      | failed failed shown => exact .failed failed (rows.trans shown)

/-- What is shown of an emulator that was handed over brings its text. Without the thread it leaves
the text that is there, of another emulator for the same key. -/
theorem ofShown {indent : Option Bool} {memories : MemoryId → Memory} {service : ServiceId}
    {emulator : Emulator} {path : String}
    (shown : Panel.Shown indent memories emulator path p p') (h : Named operations p)
    (live : p.service = some service) (askable : p.current.Askable)
    (focused : p.current.thread = some path)
    (handed : Handed operations service p.current.key emulator) : Named operations p' := by
  have present : ∀ {thread}, emulator.thread? path = some thread →
      emulator.thread? path ≠ none := by
    intro thread found
    rw [found]
    exact nofun
  cases shown with
  | missing =>
      -- The text stays, and so does the emulator that it is of, which is not this one.
      cases h with
      | noText none => exact .noText none
      | text live askable focused handed found title =>
          exact .text live askable focused handed found title (.undecoded rfl)
  | undecoded found =>
      exact .text live askable focused handed (present found)
        (Emulator.title_of_thread found).symm (.undecoded rfl)
  | decoded found _ listed =>
      exact .text live askable focused handed (present found)
        (Emulator.title_of_thread found).symm (.code rfl (Listing.isCode_ofFrame listed))

/-- A failure leaves the text that is there. -/
theorem failed {service : ServiceId} {failure : Failure} (h : Named operations p)
    (live : p.service = some service)
    (failed : .fail service p.current.key failure ∈ operations) :
    Named operations (p.showPlaceholder .notDecoded .emulationFailed (some failure.text)) := by
  cases h with
  | noText none => exact .noText none
  | text live' askable focused handed found title =>
      rw [live] at live'
      cases live'
      exact .text live askable focused handed found title (.failed failed rfl)

end Named

/-! ## The invariant -/

/-- What requests have failed with was given to their service for their key. -/
def Failing (operations : List Operation) (s : Session) : Prop :=
  ∀ (id : RequestId) request failure, s.requests[id]? = some request →
    request.state = .finished (.failed failure) →
    .fail request.service request.coordinates.key failure ∈ operations

theorem Failing.undisturbed (h : Failing operations s) (undisturbed : Undisturbed s s') :
    Failing operations s' := by
  intro id request failure found state
  have before := undisturbed.getElem?_of_settled found (by rw [state]; exact nofun)
  exact h id request failure before state

theorem Failing.mark {state : RequestState} (h : Failing operations s)
    (given : ∀ request failure, s.requests[id]? = some request →
      state = .finished (.failed failure) →
      .fail request.service request.coordinates.key failure ∈ operations) :
    Failing operations (s.mark id state) := by
  intro other request failure found finished
  rcases mark_cases found with ⟨_, found⟩ | ⟨rfl, before, foundBefore, rfl⟩
  · exact h other request failure found finished
  · exact given before failure foundBefore finished

/-- Emulators, failures and the text on the panel all come from what was handed over. -/
structure Naming (operations : List Operation) (s : Session) : Prop where
  live : Live operations s
  failing : Failing operations s
  named : Named operations s.panel

namespace Naming

theorem ofStart (start : s.IsStart) : Naming operations s := by
  refine ⟨Live.ofStart start, ?_, ?_⟩
  · obtain ⟨config, service, delivery, manager, catalog, log, memories, rfl⟩ := start.eq
    intro id request failure found
    simp at found
  · obtain ⟨config, service, delivery, manager, catalog, log, memories, rfl⟩ := start.eq
    exact .noText rfl

/-- A reload clears the text before it shows anything. -/
theorem named_of_reloaded (supplied : Supplied operations s) (reloaded : Reloaded s s') :
    Named operations s'.panel := by
  cases reloaded with
  | nothing | placeholder | wait | ask => exact .noText rfl
  | display plan focused shown =>
      obtain ⟨service, live, askable, cached⟩ := plan_eq_display plan
      exact .ofShown shown (.noText rfl) live askable focused (supplied.kept cached)

/-- A delivery does not clear it, unless it reloads. -/
theorem named_of_delivered (supplied : Supplied operations s) (failing : Failing operations s)
    (named : Named operations s.panel)
    (own : ∀ request, s.requests[id]? = some request →
      request.isCurrent s.panel.current s.panel.generation = true →
      s.panel.service = some request.service ∧ request.coordinates.key = s.panel.current.key
        ∧ s.panel.current.Askable)
    (delivered : Delivered s id s') : Named operations s'.panel := by
  cases delivered with
  | @failed request failure _ _ found current state =>
      obtain ⟨live, key, _⟩ := own request found current
      have given := failing id request failure found state
      rw [key] at given
      rw [forget_eq]
      exact Named.failed (named.congr rfl (Coordinates.sameAs_self _) rfl rfl rfl) live given
  | @applied request emulator path panel log found current state focused shown =>
      obtain ⟨live, key, askable⟩ := own request found current
      have handed := supplied.finished found state
      rw [key] at handed
      rw [forget_eq] at shown
      exact .ofShown shown (named.congr rfl (Coordinates.sameAs_self _) rfl rfl rfl) live askable
        focused handed
  | stale _ _ reloaded =>
      rw [forget_eq] at reloaded
      refine named_of_reloaded ?_ reloaded
      exact supplied.congr rfl rfl

theorem move (sound : Sound held s) (move : Move (· ∈ operations) ⟨held, s⟩ ⟨held', s'⟩)
    (h : Naming operations s) : Naming operations s' := by
  refine ⟨h.live.move sound move, ?_, ?_⟩
  · cases move with
    | aside | refresh | assign | keep | evict | takeUp | giveUp => exact h.failing
    | @finish _ _ id outcome _ ok =>
        apply Failing.mark h.failing
        intro request failure found state
        cases state
        exact (ok request found).1
    | @cancel _ _ id =>
        apply Failing.mark h.failing
        intro request failure found state
        cases state
    | load _ reloaded | focus _ _ reloaded | rewire _ reloaded =>
        refine Failing.undisturbed ?_ reloaded.undisturbed
        exact h.failing
    | deliver queue delivered =>
        refine Failing.undisturbed ?_ delivered.undisturbed
        exact h.failing
  · cases move with
    | aside | keep | evict | takeUp | giveUp | finish | cancel => exact h.named
    | refresh _ sameAs => exact h.named.congr rfl sameAs rfl rfl rfl
    | assign => exact h.named.congr rfl (Coordinates.sameAs_self _) rfl rfl rfl
    | load _ reloaded => exact named_of_reloaded h.live.supplied reloaded
    | focus _ _ reloaded | rewire _ reloaded =>
        refine named_of_reloaded ?_ reloaded
        exact h.live.supplied.congr rfl rfl
    | deliver queue delivered =>
        refine named_of_delivered ?_ ?_ ?_ ?_ delivered
        · exact h.live.supplied.congr rfl rfl
        · exact h.failing
        · exact h.named
        · intro request found current
          exact sound.watched.askable_of_isCurrent found current

end Naming

/-! ## No text without an instruction -/

theorem IsStart.naming (start : s.IsStart) (smooth : s.RunsSmoothly operations) :
    Naming operations (s.performAll operations) :=
  (start.leads smooth).moves.keep (P := fun _ s => Naming operations s) Naming.move start.sound
    (Naming.ofStart start)

/-- After every smooth run, a text on the panel is that of the current thread in an emulator which
the service that is set now was handed for the current key. -/
theorem title_of_label {text : String} (start : s.IsStart) (smooth : s.RunsSmoothly operations)
    (label : (s.performAll operations).panel.label = some text) :
    ∃ service emulator path, (s.performAll operations).panel.service = some service
      ∧ (s.performAll operations).panel.current.thread = some path
      ∧ Handed operations service (s.performAll operations).panel.current.key emulator
      ∧ emulator.title path = some text := by
  cases (start.naming smooth).named with
  | noText none =>
      rw [none] at label
      cases label
  | @text service emulator path live _ focused handed _ title _ =>
      exact ⟨service, emulator, path, live, focused, handed, title.symm.trans label⟩

/-- No outcome of a key takes back a thread that an emulator for it has. -/
structure Lasting (operations : List Operation) (service : ServiceId) (key : EmulationKey)
    (path : String) : Prop where
  unfailing : ∀ emulator failure, Handed operations service key emulator →
    emulator.thread? path ≠ none → .fail service key failure ∉ operations
  everywhere : ∀ emulator other, Handed operations service key emulator →
    emulator.thread? path ≠ none → Handed operations service key other →
    other.thread? path ≠ none

/-- An emulation came to nothing: it failed, or its emulator does not have the thread. -/
inductive Barren (operations : List Operation) (p : Panel) : Prop
  | failed {detail : Option String} : p.rows = [.ofKind .emulationFailed detail] →
      Barren operations p
  | missing {detail : Option String} {service : ServiceId} {path : String} {emulator : Emulator} :
      p.rows = [.ofKind .notDecoded detail] → p.service = some service →
      p.current.thread = some path → Handed operations service p.current.key emulator →
      emulator.thread? path = none → Barren operations p

/-- **No text without an instruction.** After every smooth run: where nothing has been emulated, the
panel has no text. Where an emulation came to nothing, it has none either, as long as no outcome for
the current key takes the thread back. -/
theorem noLabel_of_vacant (start : s.IsStart) (smooth : s.RunsSmoothly operations)
    (reached : s.performAll operations = t) :
    (t.panel.Vacant → t.panel.label = none)
      ∧ ((∀ service path, t.panel.service = some service → t.panel.current.thread = some path →
            Lasting operations service t.panel.current.key path) →
          Barren operations t.panel → t.panel.label = none) := by
  subst reached
  cases (start.naming smooth).named with
  | noText none => exact ⟨fun _ => none, fun _ _ => none⟩
  | @text service emulator path live askable focused handed found _ bears =>
      refine ⟨?_, ?_⟩
      · intro vacant
        exact absurd bears (vacant.not_bears askable)
      · intro lasting barren
        have lasts := lasting service path live focused
        cases barren with
        | failed rows =>
            rcases bears.kind_cases rows with same | ⟨_, failure, failed⟩
            · cases same
            · exact absurd failed (lasts.unfailing emulator failure handed found)
        | missing _ live' focused' handed' absent =>
            rw [live] at live'
            rw [focused] at focused'
            cases live'
            cases focused'
            exact absurd absent (lasts.everywhere _ _ handed found handed')

/-- An emulator is shown while its request is on its way, and the panel moves on. -/
def Sample.moving : List Operation :=
  [.activate (spot 1), .add "S" (spot 1).key (emulator 1), .load, .activate (spot 2)]

/-- One key fails, another one does not. -/
def Sample.failing : List Operation :=
  [.activate (spot 1), .add "S" (spot 2).key (emulator 2),
   .fail "S" (spot 1).key ⟨.runtime, ["boom"]⟩, .drain]

theorem noLabel_moving_failing :
    ((Sample.start .queued).performAll Sample.moving).panel.label = none
      ∧ ((Sample.start .queued).performAll Sample.failing).panel.label = none := by
  have loading : ((Sample.start .queued).performAll Sample.moving).panel.rows
      = [.ofKind .loading none] := by decide +kernel
  have failed : ((Sample.start .queued).performAll Sample.failing).panel.rows
      = [.ofKind .emulationFailed (some "boom")] := by decide +kernel
  have key : ((Sample.start .queued).performAll Sample.failing).panel.current.key
      = (Sample.spot 1).key := by decide +kernel
  -- What was handed over is for the other key.
  have untouched : ∀ service emulator,
      ¬ Handed Sample.failing service (Sample.spot 1).key emulator := by
    simp [Handed, Sample.failing, Sample.spot, Coordinates.key]
  have moving := noLabel_of_vacant (Sample.isStart_start .queued)
    (show RunsSmoothly _ Sample.moving by decide +kernel) rfl
  have failing := noLabel_of_vacant (Sample.isStart_start .queued)
    (show RunsSmoothly _ Sample.failing by decide +kernel) rfl
  refine ⟨moving.1 (.loading loading), failing.2 ?_ (.failed failed)⟩
  intro service path _ _
  rw [key]
  exact ⟨fun emulator _ handed => absurd handed (untouched service emulator),
    fun emulator _ handed => absurd handed (untouched service emulator)⟩

/-- The emulator is shown before the outcome of the request comes in. -/
def Sample.overtaken (outcome : Operation) : List Operation :=
  [.activate (spot 1), .add "S" (spot 1).key (emulator 1), .load, outcome, .drain]

/-- A failure that is late, and an emulator without the thread. -/
def Sample.failedLate : List Operation :=
  overtaken (.fail "S" (spot 1).key ⟨.runtime, ["boom"]⟩)

def Sample.absentLate : List Operation :=
  overtaken (.complete "S" (spot 1).key { language, threads := [] })

/-- Either of them leaves the text of the emulator that was shown. -/
theorem labelled_overtaken :
    ((Sample.start .queued).RunsSmoothly Sample.failedLate
      ∧ ((Sample.start .queued).performAll Sample.failedLate).panel.rows
        = [.ofKind .emulationFailed (some "boom")]
      ∧ ((Sample.start .queued).performAll Sample.failedLate).panel.label = some "ADD r0, 7")
    ∧ (Sample.start .queued).RunsSmoothly Sample.absentLate
      ∧ ((Sample.start .queued).performAll Sample.absentLate).panel.rows
        = [.ofKind .notDecoded none]
      ∧ ((Sample.start .queued).performAll Sample.absentLate).panel.label = some "ADD r0, 7" := by
  decide +kernel

end Session

end PcodePanel
