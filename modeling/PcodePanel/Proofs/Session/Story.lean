import Mathlib.Data.List.Nodup
import Mathlib.Data.List.Perm.Subperm
import PcodePanel.Proofs.Session.Events

/-!
# The story of the requests

An event of a log names a generation and coordinates, but no request. A *story* says of each event
which request it is about. `Session.Booked` keeps the books: how the story that has been told so far
goes together with the requests of a session. A request is asked for once. It is outstanding until
it is settled, then it is *due* until the panel is told of it, and then it has been answered.

* `Booked.opens`, `Booked.issue`, `Booked.answer` — an event is added to the story;
* `Booked.mark` — a request is settled, and becomes due;
* `Booked.length_answered_le`, `Booked.length_answered_eq_iff` — how many answers there are.
-/

namespace PcodePanel

namespace Event

/-- The event begins a generation. -/
def opens (e : Event) : Bool :=
  e.name = "activate" ∨ e.name = "service"

/-- Something is asked of a service. -/
def asks (e : Event) : Bool :=
  e.name = "request"

/-- The panel is told of a request. -/
def answers (e : Event) : Bool :=
  e.name = "apply" ∨ e.name = "failed" ∨ e.name = "stale"

variable {e : Event}

theorem not_asks_of_opens (opens : e.opens = true) : e.asks = false := by
  rcases of_decide_eq_true opens with name | name <;> simp [asks, name]

theorem not_answers_of_opens (opens : e.opens = true) : e.answers = false := by
  rcases of_decide_eq_true opens with name | name <;> simp [answers, name]

theorem not_opens_of_answers (answers : e.answers = true) : e.opens = false := by
  rcases of_decide_eq_true answers with name | name | name <;> simp [opens, name]

theorem not_asks_of_answers (answers : e.answers = true) : e.asks = false := by
  rcases of_decide_eq_true answers with name | name | name <;> simp [asks, name]

/-- The event tells of what a request was issued for. -/
structure Names (e : Event) (request : Request) : Prop where
  generation : e.generation = request.generation
  coordinates : e.coordinates = request.coordinates.shown

/-- The event tells what has become of a request. -/
inductive Reports (e : Event) (request : Request) : Prop
  | apply (emulator : Emulator) : e.name = "apply" → e.Names request →
      request.state = .finished (.emulated emulator) → Reports e request
  | failed (failure : Failure) : e.name = "failed" → e.Names request →
      request.state = .finished (.failed failure) → e.detail = failure.text → Reports e request
  | stale : e.name = "stale" → request.state ≠ .outstanding →
      e.detail = "generation " ++ Numeral.decimal request.generation →
      request.generation < e.generation ∨ request.state = .cancelled → Reports e request

theorem Reports.answers {request : Request} (h : e.Reports request) : e.answers = true := by
  cases h with
  | apply _ name | failed _ name | stale name => simp [Event.answers, name]

theorem Reports.settled {request : Request} (h : e.Reports request) :
    request.state ≠ .outstanding := by
  cases h with
  | apply _ _ _ state | failed _ _ _ state => rw [state]; exact RequestState.noConfusion
  | stale _ settled => exact settled

end Event

/-- An event, and the request that it is about, if it is about one. -/
structure Mention where
  event : Event
  request : Option RequestId := none
deriving DecidableEq, Repr

namespace Mention

/-- The requests that are asked for in a story, in order. -/
def asked (story : List Mention) : List RequestId :=
  story.filterMap fun m => if m.event.asks then m.request else none

/-- The requests that are answered in a story, in order. -/
def answered (story : List Mention) : List RequestId :=
  story.filterMap fun m => if m.event.answers then m.request else none

/-- How many generations are begun in a story. -/
def begun (story : List Mention) : Nat :=
  story.countP fun m => m.event.opens

variable {story : List Mention} {m : Mention}

theorem asked_concat : asked (story ++ [m])
    = asked story ++ if m.event.asks then m.request.toList else [] := by
  rw [asked, asked, List.filterMap_append]
  cases asks : m.event.asks <;> cases request : m.request <;> simp [asks, request]

theorem answered_concat : answered (story ++ [m])
    = answered story ++ if m.event.answers then m.request.toList else [] := by
  rw [answered, answered, List.filterMap_append]
  cases answers : m.event.answers <;> cases request : m.request <;> simp [answers, request]

theorem begun_concat : begun (story ++ [m]) = begun story + if m.event.opens then 1 else 0 := by
  simp [begun, List.countP_cons]

theorem mem_asked {id : RequestId} :
    id ∈ asked story ↔ ∃ m ∈ story, m.event.asks = true ∧ m.request = some id := by
  simp [asked]

/-- What holds of each mention and those before it holds still with one more. -/
theorem forall_concat {P : List Mention → Mention → Prop}
    (h : ∀ {front m}, front ++ [m] <+: story → P front m) (last : P story m) :
    ∀ {front m'}, front ++ [m'] <+: story ++ [m] → P front m' := by
  intro front m' isFront
  rcases List.prefix_concat_iff.mp isFront with same | earlier
  · obtain ⟨rfl, rfl⟩ := List.concat_inj.mp (by simpa using same)
    exact last
  · exact h earlier

end Mention

namespace Session

open Mention

/-- The books of a session: the story that has been told, and the requests that are settled and of
which the panel has still to be told. -/
structure Booked (story : List Mention) (due : List RequestId) (s : Session) : Prop where
  generation : s.panel.generation = begun story
  counted : ∀ {front : List Mention} {m : Mention}, front ++ [m] <+: story →
    m.event.generation = begun (front ++ [m])
  asked : asked story = List.range s.requests.length
  named : ∀ m ∈ story, m.event.asks = true → ∃ id request, m.request = some id
    ∧ s.requests[id]? = some request ∧ m.event.Names request
  reported : ∀ m ∈ story, m.event.answers = true → ∃ id request, m.request = some id
    ∧ s.requests[id]? = some request ∧ m.event.Reports request
  earlier : ∀ {front : List Mention} {m : Mention}, front ++ [m] <+: story →
    m.event.answers = true → ∀ id ∈ m.request, id ∈ Mention.asked front
  settled : ∀ id : RequestId, id ∈ answered story ++ due
    ↔ ∃ request, s.requests[id]? = some request ∧ request.state ≠ .outstanding
  once : (answered story ++ due).Nodup
  generation_le : ∀ {id : RequestId} {request : Request}, s.requests[id]? = some request →
    request.generation ≤ s.panel.generation
  live : ∀ {id : RequestId} {request : Request}, s.requests[id]? = some request →
    request.generation = s.panel.generation → request.coordinates.sameAs s.panel.current = true

namespace Booked

variable {story : List Mention} {due due' : List RequestId} {s s' : Session} {m : Mention}
  {id : RequestId} {request : Request}

/-- Nothing has happened. -/
theorem empty (generation : s.panel.generation = 0) (requests : s.requests = []) :
    Booked [] [] s := by
  refine ⟨generation, ?_, ?_, List.forall_mem_nil _, List.forall_mem_nil _, ?_, ?_, List.nodup_nil,
    ?_, ?_⟩
  · intro front m isFront
    simp at isFront
  · rw [requests]
    rfl
  · intro front m isFront
    simp at isFront
  · simp [answered, requests]
  · simp [requests]
  · simp [requests]

/-- The books look at the requests, the generation and the coordinates. -/
theorem congr (h : Booked story due s) (requests : s'.requests = s.requests)
    (generation : s'.panel.generation = s.panel.generation)
    (current : s.panel.current.sameAs s'.panel.current = true) : Booked story due s' := by
  refine ⟨?_, h.counted, ?_, ?_, ?_, h.earlier, ?_, h.once, ?_, ?_⟩ <;>
    try rw [requests]
  · rw [generation]
    exact h.generation
  · exact h.asked
  · exact h.named
  · exact h.reported
  · exact h.settled
  · rw [generation]
    exact h.generation_le
  · rw [generation]
    intro id request found live
    exact Coordinates.sameAs_trans (h.live found live) current

/-- What is shown, logged or kept beside makes no difference. -/
theorem aside (h : Booked story due s) (requests : s'.requests = s.requests)
    (generation : s'.panel.generation = s.panel.generation)
    (current : s'.panel.current = s.panel.current) : Booked story due s' := by
  refine h.congr requests generation ?_
  rw [current]
  exact Coordinates.sameAs_self _

theorem perm (h : Booked story due s) (same : due.Perm due') : Booked story due' s := by
  have all : (answered story ++ due).Perm (answered story ++ due') := same.append_left _
  refine { h with settled := ?_, once := all.nodup_iff.mp h.once }
  intro id
  rw [← all.mem_iff]
  exact h.settled id

/-! ### Events -/

/-- What one more event has to agree with: the requests of before are still there, and the event is
about one of them as it says. -/
theorem concat (h : Booked story due s)
    (kept : ∀ {id : RequestId} {request : Request}, s.requests[id]? = some request →
      s'.requests[id]? = some request)
    (counts : s'.panel.generation = begun (story ++ [m]))
    (now : m.event.generation = s'.panel.generation)
    (asked : Mention.asked (story ++ [m]) = List.range s'.requests.length)
    (named : m.event.asks = true → ∃ id request, m.request = some id
      ∧ s'.requests[id]? = some request ∧ m.event.Names request)
    (reported : m.event.answers = true → ∃ id request, m.request = some id
      ∧ s.requests[id]? = some request ∧ m.event.Reports request)
    (settled : ∀ id : RequestId, id ∈ answered (story ++ [m]) ++ due'
      ↔ ∃ request, s'.requests[id]? = some request ∧ request.state ≠ .outstanding)
    (once : (answered (story ++ [m]) ++ due').Nodup)
    (generation_le : ∀ {id : RequestId} {request : Request}, s'.requests[id]? = some request →
      request.generation ≤ s'.panel.generation)
    (live : ∀ {id : RequestId} {request : Request}, s'.requests[id]? = some request →
      request.generation = s'.panel.generation →
      request.coordinates.sameAs s'.panel.current = true) :
    Booked (story ++ [m]) due' s' := by
  refine ⟨counts, forall_concat h.counted (now.trans counts), asked, ?_, ?_,
    forall_concat h.earlier ?_, settled, once, generation_le, live⟩
  · intro m' told asks
    rcases List.mem_append.mp told with before | last
    · obtain ⟨id, request, about, found, names⟩ := h.named m' before asks
      exact ⟨id, request, about, kept found, names⟩
    · rw [List.mem_singleton.mp last] at asks ⊢
      exact named asks
  · intro m' told answers
    rcases List.mem_append.mp told with before | last
    · obtain ⟨id, request, about, found, reports⟩ := h.reported m' before answers
      exact ⟨id, request, about, kept found, reports⟩
    · rw [List.mem_singleton.mp last] at answers ⊢
      obtain ⟨id, request, about, found, reports⟩ := reported answers
      exact ⟨id, request, about, kept found, reports⟩
  · intro answers id about
    obtain ⟨id', request, about', found, _⟩ := reported answers
    obtain ⟨inside, _⟩ := List.getElem?_eq_some_iff.mp found
    rw [about', Option.mem_some_iff] at about
    rw [h.asked, List.mem_range, ← about]
    exact inside

/-- A generation begins. -/
theorem opens (h : Booked story due s) (opens : m.event.opens = true)
    (now : m.event.generation = s'.panel.generation) (requests : s'.requests = s.requests)
    (generation : s'.panel.generation = s.panel.generation + 1) :
    Booked (story ++ [m]) due s' := by
  have notAsks := Event.not_asks_of_opens opens
  have notAnswers := Event.not_answers_of_opens opens
  have answered : answered (story ++ [m]) = answered story := by
    simp [answered_concat, notAnswers]
  refine h.concat (by simp [requests]) ?_ now ?_ (by simp [notAsks]) (by simp [notAnswers]) ?_ ?_
    ?_ ?_
  · rw [generation, h.generation, begun_concat, if_pos opens]
    rfl
  · rw [asked_concat, if_neg (by simp [notAsks]), List.append_nil, requests, h.asked]
  · rw [answered, requests]
    exact h.settled
  · rw [answered]
    exact h.once
  · rw [requests, generation]
    intro id request found
    exact Int.le_of_lt (Int.lt_add_one_of_le (h.generation_le found))
  · rw [requests, generation]
    intro id request found live
    have before := h.generation_le found
    omega

/-- A request is issued. -/
theorem issue (h : Booked story due s) (service : ServiceId) :
    Booked (story ++ [⟨s.event "request" "", some s.requests.length⟩]) due (s.issue service) := by
  have answered : answered (story ++ [⟨s.event "request" "", some s.requests.length⟩])
      = answered story := by
    rw [answered_concat]
    exact List.append_nil _
  refine h.concat ?_ ?_ rfl ?_ ?_ ?_ ?_ ?_ ?_ ?_
  · intro id request found
    exact (undisturbed_issue s service).getElem? found
  · rw [begun_concat]
    exact h.generation
  · rw [asked_concat, h.asked, issue_eq, List.length_append, List.length_singleton, List.range_succ]
    rfl
  · intro _
    refine ⟨_, _, rfl, List.getElem?_concat_length, ?_⟩
    exact ⟨rfl, rfl⟩
  · exact fun answers => absurd answers (by simp [event, Event.answers])
  · intro id
    rw [answered, h.settled]
    constructor
    · rintro ⟨request, found, settled⟩
      exact ⟨request, (undisturbed_issue s service).getElem? found, settled⟩
    · rintro ⟨request, found, settled⟩
      exact ⟨request, (undisturbed_issue s service).getElem?_of_settled found settled, settled⟩
  · rw [answered]
    exact h.once
  · intro id request found
    rcases issued_cases found with before | ⟨_, rfl⟩
    · exact h.generation_le before
    · exact Int.le_refl _
  · intro id request found live
    rcases issued_cases found with before | ⟨_, rfl⟩
    · exact h.live before live
    · exact Coordinates.sameAs_self _

/-- The panel is told of a request that is due. -/
theorem answer (h : Booked story (id :: due) s) (found : s.requests[id]? = some request)
    {e : Event} (reports : e.Reports request) (now : e.generation = s.panel.generation) :
    Booked (story ++ [⟨e, some id⟩]) due s := by
  have answers := reports.answers
  have notOpens := Event.not_opens_of_answers answers
  have notAsks := Event.not_asks_of_answers answers
  have answered : answered (story ++ [⟨e, some id⟩]) ++ due = answered story ++ id :: due := by
    simp [answered_concat, answers]
  refine h.concat (fun found => found) ?_ now ?_ ?_ ?_ ?_ ?_ h.generation_le h.live
  · rw [begun_concat, if_neg (by simp [notOpens])]
    exact h.generation
  · rw [asked_concat, if_neg (by simp [notAsks]), List.append_nil, h.asked]
  · exact fun asks => absurd asks (by simp [notAsks])
  · exact fun _ => ⟨id, request, rfl, found, reports⟩
  · rw [answered]
    exact h.settled
  · rw [answered]
    exact h.once

/-! ### Requests -/

/-- A request is settled. The panel has still to be told. -/
theorem mark (h : Booked story due s) (outstanding : s.stateOf id = some .outstanding)
    {state : RequestState} (settled : state ≠ .outstanding) :
    Booked story (due ++ [id]) (s.mark id state) := by
  obtain ⟨before, foundBefore, unsettled⟩ := Option.map_eq_some_iff.mp outstanding
  have new : id ∉ answered story ++ due := by
    intro listed
    obtain ⟨request, found, settled⟩ := (h.settled id).mp listed
    rw [foundBefore] at found
    cases found
    exact settled unsettled
  have marked : (s.mark id state).requests[id]? = some { before with state } := by
    rw [getElem?_mark, if_pos rfl, foundBefore]
    rfl
  have kept : ∀ {other : RequestId} {request : Request}, s.requests[other]? = some request →
      other ≠ id → (s.mark id state).requests[other]? = some request := by
    intro other request found different
    rw [getElem?_mark, if_neg different, found]
  refine ⟨h.generation, h.counted, ?_, ?_, ?_, h.earlier, ?_, ?_, ?_, ?_⟩
  · rw [h.asked, Session.mark, List.length_modify]
  · intro m told asks
    obtain ⟨other, request, about, found, names⟩ := h.named m told asks
    by_cases same : other = id
    · rw [same, foundBefore] at found
      cases found
      exact ⟨id, _, same ▸ about, marked, ⟨names.generation, names.coordinates⟩⟩
    · exact ⟨other, request, about, kept found same, names⟩
  · intro m told answers
    obtain ⟨other, request, about, found, reports⟩ := h.reported m told answers
    have different : other ≠ id := by
      intro same
      rw [same, foundBefore] at found
      cases found
      exact reports.settled unsettled
    exact ⟨other, request, about, kept found different, reports⟩
  · intro other
    rw [← List.append_assoc, List.mem_append, h.settled, List.mem_singleton]
    constructor
    · rintro (⟨request, found, settled⟩ | same)
      · refine ⟨request, kept found ?_, settled⟩
        rintro rfl
        exact new ((h.settled other).mpr ⟨request, found, settled⟩)
      · rw [same]
        exact ⟨_, marked, settled⟩
    · rintro ⟨request, found, settled⟩
      rcases mark_cases found with ⟨_, before⟩ | ⟨same, _⟩
      · exact .inl ⟨request, before, settled⟩
      · exact .inr same
  · rw [← List.append_assoc]
    exact h.once.append (List.nodup_singleton _) (by simpa using new)
  · intro other request found
    rcases mark_cases found with ⟨_, before⟩ | ⟨_, before, foundBefore, rfl⟩
    · exact h.generation_le before
    · show before.generation ≤ _
      exact h.generation_le foundBefore
  · intro other request found live
    rcases mark_cases found with ⟨_, before⟩ | ⟨_, before, foundBefore, rfl⟩
    · exact h.live before live
    · show before.coordinates.sameAs _ = true
      exact h.live foundBefore live

/-! ### Counts -/

/-- Every request event is about a request. -/
theorem length_asked (h : Booked story due s) :
    (Mention.asked story).length = (story.map Mention.event).countP Event.asks := by
  rw [Mention.asked, List.length_filterMap_eq_countP, List.countP_map]
  refine List.countP_congr fun m told => ?_
  cases asks : m.event.asks with
  | false => simp [asks]
  | true =>
      obtain ⟨id, _, about, _⟩ := h.named m told asks
      simp [asks, about]

/-- Every answer is about a request. -/
theorem length_answered (h : Booked story due s) :
    (answered story).length = (story.map Mention.event).countP Event.answers := by
  rw [answered, List.length_filterMap_eq_countP, List.countP_map]
  refine List.countP_congr fun m told => ?_
  cases answers : m.event.answers with
  | false => simp [answers]
  | true =>
      obtain ⟨id, _, about, _⟩ := h.reported m told answers
      simp [answers, about]

theorem answered_subset (h : Booked story due s) :
    answered story ⊆ List.range s.requests.length := by
  intro id listed
  obtain ⟨request, found, _⟩ := (h.settled id).mp (List.mem_append_left _ listed)
  exact List.mem_range.mpr (List.getElem?_eq_some_iff.mp found).1

theorem length_answered_le (h : Booked story due s) :
    (answered story).length ≤ (Mention.asked story).length := by
  have distinct : (answered story).Nodup := (List.nodup_append.mp h.once).1
  rw [h.asked]
  exact (List.subperm_of_subset distinct h.answered_subset).length_le

/-- As many answers as requests: nothing is outstanding, and nothing due. -/
theorem length_answered_eq_iff (h : Booked story due s) :
    (answered story).length = (Mention.asked story).length
      ↔ (∀ request ∈ s.requests, request.state ≠ .outstanding) ∧ due = [] := by
  have distinct : (answered story).Nodup := (List.nodup_append.mp h.once).1
  constructor
  · intro all
    have every : ∀ id < s.requests.length, id ∈ answered story := by
      have same : (answered story).Perm (List.range s.requests.length) := by
        refine (List.subperm_of_subset distinct h.answered_subset).perm_of_length_le
          (Nat.le_of_eq ?_)
        rw [all, h.asked]
      exact fun id inside => same.mem_iff.mpr (List.mem_range.mpr inside)
    refine ⟨?_, ?_⟩
    · intro request issued
      obtain ⟨id, found⟩ := List.mem_iff_getElem?.mp issued
      obtain ⟨request', found', settled⟩ := (h.settled id).mp
        (List.mem_append_left _ (every id (List.getElem?_eq_some_iff.mp found).1))
      rw [found] at found'
      cases found'
      exact settled
    · refine List.eq_nil_iff_forall_not_mem.mpr fun id isDue => ?_
      obtain ⟨request, found, _⟩ := (h.settled id).mp (List.mem_append_right _ isDue)
      exact List.disjoint_of_nodup_append h.once
        (every id (List.getElem?_eq_some_iff.mp found).1) isDue
  · rintro ⟨settled, rfl⟩
    refine Nat.le_antisymm h.length_answered_le ?_
    rw [h.asked]
    refine (List.subperm_of_subset List.nodup_range fun id inside => ?_).length_le
    have found := List.getElem?_eq_getElem (List.mem_range.mp inside)
    have listed := (h.settled id).mpr ⟨_, found, settled _ (List.getElem_mem _)⟩
    rwa [List.append_nil] at listed

end Booked

end Session

end PcodePanel
