import DraftLisp.Error
import DraftLisp.Input.Answer

/-!
The broker between a script that waits for input and the user. It holds at most one open request; a
newer request settles the older one with an error. The outcome of a settled request is kept until
the one who asked collects it, and is handed out once.
-/

namespace DraftLisp

/-- The number of a request, counted from zero. -/
abbrev Ticket := Nat

abbrev Settlement := Except Error Value

structure Broker where
  slot : Option (Ticket × Request)
  /-- The outcomes that nobody has collected yet. -/
  settled : List (Ticket × Settlement)
  nextTicket : Ticket
  slot_lt : ∀ opened ∈ slot, opened.1 < nextTicket
  settled_lt : ∀ entry ∈ settled, entry.1 < nextTicket
  /-- The open request has no outcome. -/
  slot_unsettled : ∀ opened ∈ slot, ∀ entry ∈ settled, entry.1 ≠ opened.1

namespace Broker

def empty : Broker where
  slot := none
  settled := []
  nextTicket := 0
  slot_lt := by simp
  settled_lt := by simp
  slot_unsettled := by simp

instance : Inhabited Broker := ⟨empty⟩

def settle (broker : Broker) (outcome : Request → Settlement) : Broker :=
  match hslot : broker.slot with
  | none => broker
  | some (ticket, request) =>
    { broker with
      slot := none
      settled := (ticket, outcome request) :: broker.settled
      slot_lt := by simp
      settled_lt := by
        rintro entry (_ | ⟨_, hentry⟩)
        · exact broker.slot_lt _ hslot
        · exact broker.settled_lt entry hentry
      slot_unsettled := by simp }

@[simp] theorem slot_settle (broker : Broker) (outcome : Request → Settlement) :
    (broker.settle outcome).slot = none := by
  unfold settle
  split
  · assumption
  · rfl

@[simp] theorem nextTicket_settle (broker : Broker) (outcome : Request → Settlement) :
    (broker.settle outcome).nextTicket = broker.nextTicket := by
  unfold settle
  split <;> rfl

theorem settle_of_slot_none {broker : Broker} (h : broker.slot = none)
    (outcome : Request → Settlement) : broker.settle outcome = broker := by
  unfold settle
  split
  · rfl
  · simp_all

theorem settled_settle_of_slot {broker : Broker} {ticket : Ticket} {request : Request}
    (h : broker.slot = some (ticket, request)) (outcome : Request → Settlement) :
    (broker.settle outcome).settled = (ticket, outcome request) :: broker.settled := by
  unfold settle
  split
  · simp_all
  · simp_all

/-- Opens a request in place of the one that is open. -/
def request (broker : Broker) (wanted : Request) : Ticket × Broker :=
  let orphaning := broker.settle fun old => .error (.inputOrphaned old.kind.name)
  (broker.nextTicket,
    { orphaning with
      slot := some (broker.nextTicket, wanted)
      nextTicket := broker.nextTicket + 1
      slot_lt := by simp
      settled_lt := fun entry hentry =>
        Nat.lt_succ_of_lt (broker.nextTicket_settle _ ▸ orphaning.settled_lt entry hentry)
      slot_unsettled := by
        rintro _ ⟨⟩ entry hentry
        exact Nat.ne_of_lt (broker.nextTicket_settle _ ▸ orphaning.settled_lt entry hentry) })

def pending (broker : Broker) : Option Request := broker.slot.map (·.2)

def isPending (broker : Broker) : Bool := broker.slot.isSome

def resolve (broker : Broker) (raw : Json) : Broker :=
  broker.settle fun open' => .ok (Answer.value open'.kind raw)

/-- Gives the open request up; its script receives nil. -/
def cancel (broker : Broker) : Broker := broker.settle fun _ => .ok .nil

/-- Collects the outcome of a request: nothing while it is open, and nothing a second time. -/
def poll (broker : Broker) (ticket : Ticket) : Option (Settlement × Broker) :=
  (broker.settled.lookup ticket).map fun outcome =>
    (outcome,
      { broker with
        settled := broker.settled.filter (·.1 != ticket)
        settled_lt := fun entry hentry => broker.settled_lt entry (List.mem_filter.1 hentry).1
        slot_unsettled := fun opened hopened entry hentry =>
          broker.slot_unsettled opened hopened entry (List.mem_filter.1 hentry).1 })

end Broker

end DraftLisp
