import Mathlib.Data.List.Induction
import DraftLisp.Broker

/-!
Histories of a broker: what was done to it since it was empty, and what each action answers. The
state of a request can be read off the history alone.
-/

namespace DraftLisp.Broker

inductive Action where
  | request (wanted : Request)
  | poll (ticket : Ticket)
  | resolve (raw : Json)
  | cancel
  | pending

inductive Reply where
  | issued (ticket : Ticket)
  | outcome (settlement : Settlement)
  | waits
  | shown (request : Option Request)
  | noted

def act (broker : Broker) : Action → Reply × Broker
  | .request wanted =>
      let (ticket, next) := broker.request wanted
      (.issued ticket, next)
  | .poll ticket =>
      match broker.poll ticket with
      | some (outcome, next) => (.outcome outcome, next)
      | none => (.waits, broker)
  | .resolve raw => (.noted, broker.resolve raw)
  | .cancel => (.noted, broker.cancel)
  | .pending => (.shown broker.pending, broker)

def after (history : List Action) : Broker :=
  history.foldl (fun broker action => (broker.act action).2) empty

@[simp] theorem after_concat (history : List Action) (action : Action) :
    after (history ++ [action]) = ((after history).act action).2 := by
  simp [after]

/-- The outcome that an action decides for a request of a kind that is open. -/
def Action.decides? (kind : InputKind) : Action → Option Settlement
  | .request _ => some (.error (.inputOrphaned kind.name))
  | .resolve raw => some (.ok ((Answer.value? kind raw).getD .nil))
  | .cancel => some (.ok .nil)
  | .poll _ | .pending => none

def Action.isRequest : Action → Bool
  | .request _ => true
  | _ => false

def requests (history : List Action) : Nat := history.countP (·.isRequest)

@[simp] theorem requests_concat (history : List Action) (action : Action) :
    requests (history ++ [action]) = requests history + if action.isRequest then 1 else 0 := by
  simp [requests, List.countP_append, List.countP_cons]

/-- The request with a ticket is made in the history, and nothing later decides it. -/
def Open (history : List Action) (ticket : Ticket) (wanted : Request) : Prop :=
  ∃ before later, history = before ++ .request wanted :: later ∧ requests before = ticket ∧
    ∀ action ∈ later, action.decides? wanted.kind = none

/-- The first action that can decide the request with a ticket decides for `outcome`; the history
ends with `later` after it. -/
def Decided (history : List Action) (ticket : Ticket) (outcome : Settlement)
    (later : List Action) : Prop :=
  ∃ before wanted waiting decisive,
    history = before ++ .request wanted :: (waiting ++ decisive :: later) ∧
      requests before = ticket ∧
      (∀ action ∈ waiting, action.decides? wanted.kind = none) ∧
      decisive.decides? wanted.kind = some outcome

/-- An action writes the outcome of the request with a ticket. -/
def Settles (broker : Broker) (action : Action) (ticket : Ticket) (outcome : Settlement) : Prop :=
  (broker.act action).2.settled = (ticket, outcome) :: broker.settled

theorem open_concat_iff {history : List Action} {action : Action} {ticket : Ticket}
    {wanted : Request} :
    Open (history ++ [action]) ticket wanted ↔
      (action = .request wanted ∧ requests history = ticket) ∨
        (Open history ticket wanted ∧ action.decides? wanted.kind = none) := by
  constructor
  · -- The last action is the request itself, or one of those that follow it.
    rintro ⟨before, later, hsplit, hticket, hlater⟩
    rcases List.eq_nil_or_concat later with rfl | ⟨later, last, rfl⟩
    · obtain ⟨rfl, hlast⟩ := List.append_inj' hsplit rfl
      exact .inl ⟨by simpa using hlast, hticket⟩
    · have hparts : history ++ [action] = (before ++ .request wanted :: later) ++ [last] := by
        simpa using hsplit
      obtain ⟨hhistory, hlast⟩ := List.append_inj' hparts rfl
      obtain rfl : action = last := by simpa using hlast
      refine .inr ⟨⟨before, later, hhistory, hticket, ?_⟩, hlater _ (by simp)⟩
      exact fun other hother => hlater other (by simp [hother])
  · rintro (⟨rfl, hticket⟩ | ⟨⟨before, later, rfl, hticket, hlater⟩, hnone⟩)
    · exact ⟨history, [], rfl, hticket, by simp⟩
    · refine ⟨before, later ++ [action], by simp, hticket, ?_⟩
      intro other hother
      rcases List.mem_append.mp hother with hother | hother
      · exact hlater other hother
      · obtain rfl : other = action := by simpa using hother
        exact hnone

theorem decided_concat_iff {history : List Action} {action : Action} {ticket : Ticket}
    {outcome : Settlement} {later : List Action} :
    Decided (history ++ [action]) ticket outcome later ↔
      (later = [] ∧ ∃ wanted, Open history ticket wanted ∧
        action.decides? wanted.kind = some outcome) ∨
        ∃ rest, later = rest ++ [action] ∧ Decided history ticket outcome rest := by
  constructor
  · rintro ⟨before, wanted, waiting, decisive, hsplit, hticket, hwaiting, hdecisive⟩
    rcases List.eq_nil_or_concat later with rfl | ⟨later, last, rfl⟩
    · have hparts :
          history ++ [action] = (before ++ .request wanted :: waiting) ++ [decisive] := by
        simpa using hsplit
      obtain ⟨hhistory, hlast⟩ := List.append_inj' hparts rfl
      obtain rfl : action = decisive := by simpa using hlast
      exact .inl ⟨rfl, wanted, ⟨before, waiting, hhistory, hticket, hwaiting⟩, hdecisive⟩
    · have hparts : history ++ [action] =
          (before ++ .request wanted :: (waiting ++ decisive :: later)) ++ [last] := by
        simpa using hsplit
      obtain ⟨hhistory, hlast⟩ := List.append_inj' hparts rfl
      obtain rfl : action = last := by simpa using hlast
      refine .inr ⟨later, List.concat_eq_append, ?_⟩
      exact ⟨before, wanted, waiting, decisive, hhistory, hticket, hwaiting, hdecisive⟩
  · rintro (⟨rfl, wanted, ⟨before, waiting, rfl, hticket, hwaiting⟩, hdecisive⟩ |
      ⟨rest, rfl, before, wanted, waiting, decisive, rfl, hticket, hwaiting, hdecisive⟩)
    · exact ⟨before, wanted, waiting, action, by simp, hticket, hwaiting, hdecisive⟩
    · exact ⟨before, wanted, waiting, decisive, by simp, hticket, hwaiting, hdecisive⟩

theorem lookup_cons_eq_ite (first other : Ticket) (outcome : Settlement)
    (entries : List (Ticket × Settlement)) :
    ((first, outcome) :: entries).lookup other =
      if other = first then some outcome else entries.lookup other := by
  rw [List.lookup_cons]
  by_cases h : other = first
  · simp [h]
  · rw [beq_eq_false_iff_ne.mpr h, if_neg h]

theorem lookup_filter_ne (entries : List (Ticket × Settlement)) (ticket other : Ticket) :
    (entries.filter (·.1 != ticket)).lookup other =
      if other = ticket then none else entries.lookup other := by
  induction entries with
  | nil => simp
  | cons entry entries ih =>
      obtain ⟨first, outcome⟩ := entry
      rw [lookup_cons_eq_ite]
      by_cases hfirst : first = ticket
      · subst hfirst
        rw [List.filter_cons_of_neg (by simp), ih]
        by_cases h : other = first <;> simp [h]
      · rw [List.filter_cons_of_pos (by simpa using hfirst), lookup_cons_eq_ite, ih]
        by_cases h : other = first
        · subst h
          simp [hfirst]
        · simp [h]

theorem lookup_eq_none_of_slot {broker : Broker} {ticket : Ticket} {wanted : Request}
    (h : broker.slot = some (ticket, wanted)) : broker.settled.lookup ticket = none := by
  rw [List.lookup_eq_none_iff]
  intro entry hentry
  simpa using (broker.slot_unsettled _ h entry hentry).symm

/-- Which request is open after an action: a new one, or the one before unless it is decided. -/
theorem slot_act_iff {broker : Broker} {action : Action} {ticket : Ticket} {wanted : Request} :
    (broker.act action).2.slot = some (ticket, wanted) ↔
      (action = .request wanted ∧ broker.nextTicket = ticket) ∨
        (broker.slot = some (ticket, wanted) ∧ action.decides? wanted.kind = none) := by
  cases action with
  | request newer => simp [act, request, Action.decides?, and_comm]
  | poll other =>
      cases h : broker.settled.lookup other <;> simp [act, poll, h, Action.decides?]
  | resolve raw => simp [act, resolve, Action.decides?]
  | cancel => simp [act, cancel, Action.decides?]
  | pending => simp [act, Action.decides?]

theorem settled_act_of_decides {broker : Broker} {action : Action} {ticket : Ticket}
    {wanted : Request} {outcome : Settlement} (hslot : broker.slot = some (ticket, wanted))
    (h : action.decides? wanted.kind = some outcome) : Settles broker action ticket outcome := by
  unfold Settles
  cases action with
  | request newer =>
      obtain rfl : Except.error (.inputOrphaned wanted.kind.name) = outcome := by
        simpa [Action.decides?] using h
      simp [act, request, settled_settle_of_slot hslot]
  | resolve raw =>
      obtain rfl : Except.ok ((Answer.value? wanted.kind raw).getD .nil) = outcome := by
        simpa [Action.decides?] using h
      simp [act, resolve, settled_settle_of_slot hslot, Answer.value_eq_getD]
  | cancel =>
      obtain rfl : Except.ok .nil = outcome := by simpa [Action.decides?] using h
      simp [act, cancel, settled_settle_of_slot hslot]
  | poll other => simp [Action.decides?] at h
  | pending => simp [Action.decides?] at h

theorem settled_act_poll (broker : Broker) (ticket : Ticket) :
    (broker.act (.poll ticket)).2.settled = broker.settled.filter (·.1 != ticket) := by
  cases h : broker.settled.lookup ticket with
  | some outcome => simp [act, poll, h]
  | none =>
      have hself : broker.settled.filter (·.1 != ticket) = broker.settled := by
        rw [List.filter_eq_self]
        intro entry hentry
        have hne : ticket ≠ entry.1 := by
          simpa using List.lookup_eq_none_iff.mp h entry hentry
        simpa using hne.symm
      rw [hself]
      simp [act, poll, h]

theorem settled_act_of_idle {broker : Broker} {action : Action}
    (hidle : ∀ ticket wanted, broker.slot = some (ticket, wanted) →
      action.decides? wanted.kind = none)
    (hpoll : ∀ ticket, action ≠ .poll ticket) :
    (broker.act action).2.settled = broker.settled := by
  cases hslot : broker.slot with
  | none =>
      cases action with
      | request newer => simp [act, request, settle_of_slot_none hslot]
      | resolve raw => simp [act, resolve, settle_of_slot_none hslot]
      | cancel => simp [act, cancel, settle_of_slot_none hslot]
      | poll ticket => exact absurd rfl (hpoll ticket)
      | pending => rfl
  | some opened =>
      have hnone := hidle opened.1 opened.2 hslot
      cases action with
      | poll ticket => exact absurd rfl (hpoll ticket)
      | pending => rfl
      | request newer => simp [Action.decides?] at hnone
      | resolve raw => simp [Action.decides?] at hnone
      | cancel => simp [Action.decides?] at hnone

/-- Either an action decides for the open request, or it writes nothing. -/
theorem decides_or_idle (broker : Broker) (action : Action) :
    (∃ ticket wanted outcome, broker.slot = some (ticket, wanted) ∧
      action.decides? wanted.kind = some outcome) ∨
      ∀ ticket wanted, broker.slot = some (ticket, wanted) →
        action.decides? wanted.kind = none := by
  cases hslot : broker.slot with
  | none => exact .inr (by simp)
  | some opened =>
      obtain ⟨ticket, wanted⟩ := opened
      cases hdecides : action.decides? wanted.kind with
      | some outcome => exact .inl ⟨ticket, wanted, outcome, rfl, hdecides⟩
      | none =>
          refine .inr fun other request h => ?_
          obtain ⟨rfl, rfl⟩ := Prod.mk.inj (Option.some.inj h)
          exact hdecides

theorem settles_iff {broker : Broker} {action : Action} {ticket : Ticket} {outcome : Settlement} :
    Settles broker action ticket outcome ↔
      ∃ wanted, broker.slot = some (ticket, wanted) ∧
        action.decides? wanted.kind = some outcome := by
  constructor
  · intro h
    rcases decides_or_idle broker action with ⟨other, wanted, settlement, hslot, hdecides⟩ | hidle
    · have hwritten := (settled_act_of_decides hslot hdecides).symm.trans h
      obtain ⟨rfl, rfl⟩ := Prod.mk.inj (List.cons.inj hwritten).1
      exact ⟨wanted, hslot, hdecides⟩
    · have hlength := congrArg List.length h
      rw [List.length_cons] at hlength
      by_cases hpoll : ∃ other, action = .poll other
      · obtain ⟨other, rfl⟩ := hpoll
        rw [settled_act_poll] at hlength
        have := List.length_filter_le (·.1 != other) broker.settled
        omega
      · rw [settled_act_of_idle hidle (fun other hother => hpoll ⟨other, hother⟩)] at hlength
        omega
  · rintro ⟨wanted, hslot, hdecides⟩
    exact settled_act_of_decides hslot hdecides

theorem lookup_act_iff {broker : Broker} {action : Action} {ticket : Ticket}
    {outcome : Settlement} :
    (broker.act action).2.settled.lookup ticket = some outcome ↔
      (∃ wanted, broker.slot = some (ticket, wanted) ∧
        action.decides? wanted.kind = some outcome) ∨
        (broker.settled.lookup ticket = some outcome ∧ action ≠ .poll ticket) := by
  rcases decides_or_idle broker action with ⟨other, wanted, settlement, hslot, hdecides⟩ | hidle
  · have hnot : ∀ ticket, action ≠ .poll ticket := by
      rintro ticket rfl
      simp [Action.decides?] at hdecides
    rw [settled_act_of_decides hslot hdecides, lookup_cons_eq_ite]
    -- The new outcome hides no earlier one, as an open request has none.
    by_cases h : ticket = other
    · subst h
      simp [hslot, hdecides, lookup_eq_none_of_slot hslot]
    · simp [hslot, h, Ne.symm h, hnot]
  · have hnone : ¬∃ wanted, broker.slot = some (ticket, wanted) ∧
        action.decides? wanted.kind = some outcome := by
      rintro ⟨wanted, hslot, hdecides⟩
      simp [hidle ticket wanted hslot] at hdecides
    by_cases hpoll : ∃ other, action = .poll other
    · obtain ⟨other, rfl⟩ := hpoll
      rw [settled_act_poll, lookup_filter_ne]
      by_cases h : ticket = other
      · simp [h, Action.decides?]
      · simp [h, Ne.symm h, Action.decides?]
    · have hnot : ∀ other, action ≠ .poll other := fun other hother => hpoll ⟨other, hother⟩
      rw [settled_act_of_idle hidle hnot]
      simp [hnone, hnot]

theorem nextTicket_act (broker : Broker) (action : Action) :
    (broker.act action).2.nextTicket = broker.nextTicket + if action.isRequest then 1 else 0 := by
  cases action with
  | request wanted => simp [act, request, Action.isRequest]
  | poll ticket =>
      cases h : broker.settled.lookup ticket <;> simp [act, poll, h, Action.isRequest]
  | resolve raw => simp [act, resolve, Action.isRequest]
  | cancel => simp [act, cancel, Action.isRequest]
  | pending => simp [act, Action.isRequest]

theorem nextTicket_after (history : List Action) :
    (after history).nextTicket = requests history := by
  induction history using List.reverseRecOn with
  | nil => rfl
  | append_singleton history action ih => rw [after_concat, nextTicket_act, requests_concat, ih]

theorem slot_after_iff {history : List Action} {ticket : Ticket} {wanted : Request} :
    (after history).slot = some (ticket, wanted) ↔ Open history ticket wanted := by
  induction history using List.reverseRecOn with
  | nil => simp [after, empty, Open]
  | append_singleton history action ih =>
      rw [after_concat, slot_act_iff, open_concat_iff, ih, nextTicket_after]

theorem lookup_after_iff {history : List Action} {ticket : Ticket} {outcome : Settlement} :
    (after history).settled.lookup ticket = some outcome ↔
      ∃ later, Decided history ticket outcome later ∧ .poll ticket ∉ later := by
  induction history using List.reverseRecOn with
  | nil => simp [after, empty, Decided]
  | append_singleton history action ih =>
      rw [after_concat, lookup_act_iff, ih]
      simp only [decided_concat_iff, slot_after_iff]
      constructor
      · rintro (hnow | ⟨⟨later, hdecided, hlater⟩, hpoll⟩)
        · exact ⟨[], .inl ⟨rfl, hnow⟩, by simp⟩
        · refine ⟨later ++ [action], .inr ⟨later, rfl, hdecided⟩, ?_⟩
          simpa [hlater] using hpoll.symm
      · rintro ⟨_, ⟨rfl, hnow⟩ | ⟨rest, rfl, hdecided⟩, hlater⟩
        · exact .inl hnow
        · rw [List.mem_append, not_or] at hlater
          exact .inr ⟨⟨rest, hdecided, hlater.1⟩, by simpa [eq_comm] using hlater.2⟩

theorem Open.functional {history : List Action} {first second : Ticket} {wanted other : Request}
    (h : Open history first wanted) (h' : Open history second other) :
    first = second ∧ wanted = other := by
  rw [← slot_after_iff] at h h'
  simpa [h] using h'

theorem Open.latest {history : List Action} {ticket : Ticket} {wanted : Request}
    (h : Open history ticket wanted) : ticket + 1 = requests history := by
  induction history using List.reverseRecOn with
  | nil => simp [Open] at h
  | append_singleton history action ih =>
      rw [requests_concat]
      rcases open_concat_iff.mp h with ⟨rfl, rfl⟩ | ⟨hopen, hnone⟩
      · simp [Action.isRequest]
      · cases action with
        | request newer => simp [Action.decides?] at hnone
        | _ => simpa [Action.isRequest] using ih hopen

theorem Decided.lt_requests {history : List Action} {ticket : Ticket} {outcome : Settlement}
    {later : List Action} (h : Decided history ticket outcome later) :
    ticket < requests history := by
  obtain ⟨before, wanted, waiting, decisive, rfl, rfl, -, -⟩ := h
  simp [requests, List.countP_append, List.countP_cons, Action.isRequest]

theorem Decided.not_open {history : List Action} {ticket : Ticket} {outcome : Settlement}
    {later : List Action} (h : Decided history ticket outcome later) (wanted : Request) :
    ¬Open history ticket wanted := by
  induction history using List.reverseRecOn generalizing later with
  | nil => simp [Open]
  | append_singleton history action ih =>
      intro hopen
      rcases open_concat_iff.mp hopen with ⟨-, rfl⟩ | ⟨hopen, hnone⟩
      · rcases decided_concat_iff.mp h with ⟨-, other, hearlier, -⟩ | ⟨rest, -, hdecided⟩
        · exact Nat.succ_ne_self _ hearlier.latest
        · exact Nat.lt_irrefl _ hdecided.lt_requests
      · rcases decided_concat_iff.mp h with ⟨-, other, hearlier, hdecides⟩ | ⟨rest, -, hdecided⟩
        · obtain ⟨-, rfl⟩ := hopen.functional hearlier
          simp [hnone] at hdecides
        · exact ih hdecided hopen

theorem Decided.append {history : List Action} {ticket : Ticket} {outcome : Settlement}
    {later : List Action} (h : Decided history ticket outcome later) (more : List Action) :
    Decided (history ++ more) ticket outcome (later ++ more) := by
  obtain ⟨before, wanted, waiting, decisive, rfl, hrest⟩ := h
  exact ⟨before, wanted, waiting, decisive, by simp, hrest⟩

theorem Decided.functional {history : List Action} {ticket : Ticket} {first second : Settlement}
    {later later' : List Action} (h : Decided history ticket first later)
    (h' : Decided history ticket second later') : first = second ∧ later = later' := by
  induction history using List.reverseRecOn generalizing later later' with
  | nil => simp [Decided] at h
  | append_singleton history action ih =>
      rcases decided_concat_iff.mp h with ⟨rfl, wanted, hopen, hfirst⟩ | ⟨rest, rfl, hdecided⟩
      · rcases decided_concat_iff.mp h' with ⟨rfl, other, hopen', hsecond⟩ | ⟨rest', -, hdecided'⟩
        · obtain ⟨-, rfl⟩ := hopen.functional hopen'
          exact ⟨Option.some.inj (hfirst.symm.trans hsecond), rfl⟩
        · exact absurd hopen (hdecided'.not_open wanted)
      · rcases decided_concat_iff.mp h' with ⟨-, other, hopen', -⟩ | ⟨rest', rfl, hdecided'⟩
        · exact absurd hopen' (hdecided.not_open other)
        · obtain ⟨rfl, rfl⟩ := ih hdecided hdecided'
          exact ⟨rfl, rfl⟩

theorem settles_after_iff {history : List Action} {action : Action} {ticket : Ticket}
    {outcome : Settlement} :
    Settles (after history) action ticket outcome ↔
      Decided (history ++ [action]) ticket outcome [] := by
  simp [settles_iff, slot_after_iff, decided_concat_iff]

theorem act_poll_eq_outcome_iff {broker : Broker} {ticket : Ticket} {outcome : Settlement} :
    (broker.act (.poll ticket)).1 = .outcome outcome ↔
      broker.settled.lookup ticket = some outcome := by
  cases h : broker.settled.lookup ticket <;> simp [act, poll, h]

theorem act_poll_eq_waits_iff {broker : Broker} {ticket : Ticket} :
    (broker.act (.poll ticket)).1 = .waits ↔ broker.settled.lookup ticket = none := by
  cases h : broker.settled.lookup ticket <;> simp [act, poll, h]

theorem open_or_decided {history : List Action} {ticket : Ticket}
    (h : ticket < requests history) :
    (∃ wanted, Open history ticket wanted) ∨
      ∃ outcome later, Decided history ticket outcome later := by
  induction history using List.reverseRecOn with
  | nil => simp [requests] at h
  | append_singleton history action ih =>
      by_cases hearlier : ticket < requests history
      · rcases ih hearlier with ⟨wanted, hopen⟩ | ⟨outcome, later, hdecided⟩
        · cases hdecides : action.decides? wanted.kind with
          | none => exact .inl ⟨wanted, open_concat_iff.mpr (.inr ⟨hopen, hdecides⟩)⟩
          | some outcome =>
              exact .inr ⟨outcome, [],
                decided_concat_iff.mpr (.inl ⟨rfl, wanted, hopen, hdecides⟩)⟩
        · exact .inr ⟨outcome, later ++ [action], hdecided.append [action]⟩
      · rw [requests_concat] at h
        cases action with
        | request wanted =>
            refine .inl ⟨wanted, open_concat_iff.mpr (.inl ⟨rfl, ?_⟩)⟩
            have hone : (Action.request wanted).isRequest = true := rfl
            rw [hone, if_pos rfl] at h
            exact Nat.le_antisymm (Nat.not_lt.mp hearlier) (Nat.le_of_lt_succ h)
        | _ => exact absurd h hearlier

/-- What a history determines about the broker after it. -/
structure Accounted (history : List Action) : Prop where
  /-- The next request gets a ticket that no earlier one has. -/
  issued : ∀ wanted, ((after history).act (.request wanted)).1 = .issued (requests history)
  /-- Every request is open or decided, and not both. -/
  open_or_decided : ∀ ticket, ticket < requests history →
    ((∃ wanted, Open history ticket wanted) ↔
      ¬∃ outcome later, Decided history ticket outcome later)
  /-- The outcome of a request is decided once: by the first later action that can decide it. -/
  decided_once : ∀ ticket first second later later',
    Decided history ticket first later → Decided history ticket second later' →
      first = second ∧ later = later'
  /-- A poll hands out exactly the outcome that was decided for its own request, unless a poll
  since then has had it. -/
  collected : ∀ ticket outcome,
    ((after history).act (.poll ticket)).1 = .outcome outcome ↔
      ∃ later, Decided history ticket outcome later ∧ .poll ticket ∉ later
  /-- Every other poll waits. -/
  waits : ∀ ticket,
    ((after history).act (.poll ticket)).1 = .waits ↔
      ∀ outcome later, Decided history ticket outcome later → .poll ticket ∈ later
  /-- Once an outcome was handed out, the polls of its request wait. -/
  collected_once : ∀ before ticket outcome later,
    history = before ++ .poll ticket :: later →
      ((after before).act (.poll ticket)).1 = .outcome outcome →
        ((after history).act (.poll ticket)).1 = .waits
  /-- The outcome of a request is written where it is decided, and never again. -/
  settled_once : ∀ before action ticket outcome later,
    history = before ++ action :: later → Settles (after before) action ticket outcome →
      Decided history ticket outcome later ∧
        ∀ next other, ¬Settles (after history) next ticket other
  /-- The open request is the latest one and the only one that is not decided. -/
  pending : ∀ wanted,
    ((after history).act .pending).1 = .shown (some wanted) ↔
      ∃ ticket, Open history ticket wanted ∧ ticket + 1 = requests history
  open_unique : ∀ first second wanted other,
    Open history first wanted → Open history second other → first = second ∧ wanted = other
  /-- While nothing is open, answers and cancellations change nothing. -/
  idle : ((after history).act .pending).1 = .shown none →
    (∀ raw, (after history).resolve raw = after history) ∧ (after history).cancel = after history

/-- No outcome is lost, handed out twice or handed to the wrong request. -/
theorem accounted (history : List Action) : Accounted history where
  issued wanted := by simp [act, request, nextTicket_after]
  open_or_decided ticket h := by
    constructor
    · rintro ⟨wanted, hopen⟩ ⟨outcome, later, hdecided⟩
      exact hdecided.not_open wanted hopen
    · intro hnot
      exact (Broker.open_or_decided h).resolve_right hnot
  decided_once _ _ _ _ _ h h' := h.functional h'
  collected ticket outcome := by rw [act_poll_eq_outcome_iff, lookup_after_iff]
  waits ticket := by
    rw [act_poll_eq_waits_iff, Option.eq_none_iff_forall_ne_some]
    simp only [ne_eq, lookup_after_iff, not_exists, not_and, not_not]
  collected_once before ticket outcome later hsplit h := by
    rw [act_poll_eq_outcome_iff, lookup_after_iff] at h
    obtain ⟨since, hdecided, -⟩ := h
    rw [act_poll_eq_waits_iff, Option.eq_none_iff_forall_ne_some]
    intro other hother
    obtain ⟨since', hdecided', hpoll⟩ := lookup_after_iff.mp hother
    have hhistory := hdecided.append (.poll ticket :: later)
    rw [← hsplit] at hhistory
    -- Both histories tell of one decision, and the poll stands after it.
    obtain ⟨-, rfl⟩ := hhistory.functional hdecided'
    simp at hpoll
  settled_once before action ticket outcome later hsplit h := by
    have hdecided : Decided history ticket outcome later := by
      rw [hsplit]
      simpa using (settles_after_iff.mp h).append later
    refine ⟨hdecided, ?_⟩
    intro next other hsettles
    obtain ⟨wanted, hslot, -⟩ := settles_iff.mp hsettles
    exact hdecided.not_open wanted (slot_after_iff.mp hslot)
  pending wanted := by
    have hshown : ((after history).act .pending).1 = .shown (some wanted) ↔
        ∃ ticket, (after history).slot = some (ticket, wanted) := by
      simp [act, Broker.pending]
    rw [hshown]
    simp only [slot_after_iff]
    exact exists_congr fun ticket => ⟨fun h => ⟨h, h.latest⟩, And.left⟩
  open_unique _ _ _ _ h h' := h.functional h'
  idle h := by
    have hslot : (after history).slot = none := by simpa [act, Broker.pending] using h
    exact ⟨fun raw => settle_of_slot_none hslot _, settle_of_slot_none hslot _⟩

end DraftLisp.Broker
