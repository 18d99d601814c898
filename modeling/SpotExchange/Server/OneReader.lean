/-
Each connection is read by one callback at a time, however the callbacks of the server are
interleaved: a connection has one permit to read, which is with the call that is pending or
with the callback that may start the next one. So the message of a connection stays as it is
while a callback works on it.
-/

import SpotExchange.Server.ClientRegistry
import SpotExchange.Server.FirstRead

namespace SpotExchange
namespace Server
namespace Clients

open Machine Program Wire OrderEntryStreamConnection

/-! ### Permits to read -/

/-- What an action takes of the permit of a connection. -/
def readsOf (connection : ConnectionRef) : Instruction → Nat
  | .on self (.read _) => if self = connection then 1 else 0
  | _ => 0

/-- The calls other than writes that a connection has started and that have not completed. -/
def pendingCalls (connection : ConnectionRef) (clients : Clients) : Nat :=
  (clients.connections connection).pending.length

/-- A connection has one permit from its construction on. -/
def permitted (connection : ConnectionRef) (clients : Clients) : Nat :=
  if (clients.connections connection).constructed then 1 else 0

section Instructions

variable {connection : ConnectionRef} {instruction : Instruction} {clients next : Clients}

theorem isRead_or (self : ConnectionRef) (action : Connection.Action) :
    (∃ callback, action = .read callback) ∨ StartsNoRead (.on self action) := by
  cases action with
  | read callback => exact Or.inl ⟨callback, rfl⟩
  | _ => exact Or.inr trivial

/-- What happens to the calls and the message of one connection in a step that may start so many
reads. -/
inductive Called (reads : Nat) (before after : Connection) : Prop
  | same (sameCalls : SameCalls before after)
  | starts (callback : Callback) (costs : reads = 1)
      (pending : after.pending = before.pending ++ [callback])
      (constructed : after.constructed = before.constructed)
      (oeRequest : after.oeRequest = before.oeRequest)
  | constructs (userid : UserId) (unborn : before.constructed = false)
      (new : after = Connection.construct userid)

theorem changed_called {target : ConnectionRef} {after : Connection} {reads : Nat}
    (changed : next.connections = Function.update clients.connections target after)
    (same : SameCalls (clients.connections target) after) :
    Called reads (clients.connections connection) (next.connections connection) :=
  Called.same (changed_sameCalls changed same connection)

theorem effect_called {answer : Bool}
    (performed : effect clients instruction = .ok (answer, next)) :
    Called (readsOf connection instruction) (clients.connections connection)
      (next.connections connection) := by
  cases instruction with
  | on target action =>
      simp only [effect] at performed
      split at performed
      · cases performed
      · rename_i given after acted
        cases performed
        rcases isRead_or target action with ⟨callback, isRead⟩ | noRead
        · rw [isRead] at acted ⊢
          by_cases here : target = connection
          · subst here
            cases acted
            rw [update_self]
            exact Called.starts callback (if_pos rfl) rfl rfl rfl
          · rw [update_other _ _ (Ne.symm here)]
            exact Called.same (SameCalls.refl _)
        · exact changed_called rfl (act_sameCalls noRead acted)
  | createNewConn target fresh userid =>
      simp only [effect] at performed
      split at performed
      · cases performed
      · rename_i unborn
        cases performed
        by_cases here : connection = fresh
        · rw [here, update_self]
          exact Called.constructs userid (Bool.eq_false_iff.mpr unborn) rfl
        · rw [update_other _ _ here]
          exact changed_called rfl (touch_sameCalls _)
  | find target userid =>
      cases performed
      exact changed_called rfl (touch_sameCalls _)
  | emplace target userid =>
      cases performed
      have same : SameCalls (clients.connections target)
          { (clients.connections target).touch with
            registered := userid :: (clients.connections target).registered } :=
        ⟨rfl, rfl, rfl⟩
      exact changed_called (connections_emplace clients target userid) same
  | terminateConnection target =>
      cases performed
      have same : SameCalls (clients.connections target)
          { (clients.connections target).touch with released := true } :=
        ⟨rfl, rfl, rfl⟩
      exact changed_called rfl same
  | nextEntry target userid =>
      cases performed
      have same : SameCalls (clients.connections target)
          { clients.connections target with
            lostEntry := (clients.connections target).lostEntry ||
              !(clients.clientStreams.lookup userid).isSome } :=
        ⟨rfl, rfl, rfl⟩
      exact changed_called rfl same

end Instructions

/-! ### Callbacks -/

section Callbacks

variable {connection self : ConnectionRef} {success : Bool} {request : OrderEntryRequest}
  {processing : Processing}

end Callbacks

/-! ### Deliveries -/

section Deliveries

variable {connection self : ConnectionRef} {clients next : Clients}
  {program : Program Instruction Unit}

/-- Only a read that completes brings a message. -/
theorem deliver_oeRequest {delivery : Delivery}
    (constructed : (clients.connections connection).constructed = true)
    (idle : (clients.connections connection).pending = [])
    (started : clients.deliver delivery = .ok (next, program)) :
    (next.connections connection).oeRequest = (clients.connections connection).oeRequest := by
  have absent : ∀ {callback}, ¬(clients.connections connection).Awaits callback := by
    intro callback awaits
    have member := awaits.2
    rw [idle] at member
    cases member
  have elsewhere : ∀ {self callback}, (clients.connections self).Awaits callback →
      connection ≠ self := by
    intro self callback awaits same
    rw [← same] at awaits
    exact absent awaits
  cases delivery with
  | makeNewOrderEntryConnection fresh userid =>
      simp only [deliver] at started
      split at started
      · cases started
      · rename_i unborn
        cases started
        rw [update_other]
        intro same
        rw [same] at constructed
        exact unborn constructed
  | shutdownServer order =>
      simp only [deliver] at started
      split at started
      · cases started
        rfl
      · cases started
  | written self position success =>
      simp only [deliver] at started
      split at started
      · cases started
        exact (changed_sameCalls rfl (written_sameCalls _ position) connection).oeRequest
      · cases started
  | streamDone self =>
      simp only [deliver] at started
      split at started
      · cases started
        exact (changed_sameCalls rfl (notified_sameCalls _) connection).oeRequest
      · cases started
  | _ =>
      simp only [deliver] at started
      split at started
      · rename_i awaits
        cases started
        rw [update_other _ _ (elsewhere awaits)]
      · cases started

end Deliveries

/-! ### Every interleaving -/

/-- A running callback may still start a read of the connection. -/
def MayRead (connection : ConnectionRef) (program : Program Instruction Unit) : Prop :=
  0 < program.permits (readsOf connection)

/-- The permit of each connection is in one place at most. -/
def Permitted (callbacks : Callbacks) : Prop :=
  ∀ connection, Threads.permits (readsOf connection) (pendingCalls connection) callbacks ≤
    permitted connection callbacks.state

section Reading

variable {callbacks : Callbacks} {connection : ConnectionRef} {program : Program Instruction Unit}

/-- One reader takes the permit, so that nothing is pending, on a connection that there is. -/
theorem Permitted.reader (within : Permitted callbacks) (running : program ∈ callbacks.running)
    (mayRead : MayRead connection program) :
    (callbacks.state.connections connection).pending = [] ∧
      (callbacks.state.connections connection).constructed = true ∧
        (callbacks.running.map (Program.permits (readsOf connection))).sum = 1 := by
  have most := within connection
  obtain ⟨thread, found⟩ := List.mem_iff_getElem?.mp running
  have some := Threads.weight_le_sum (Program.permits (readsOf connection)) found
  unfold Threads.permits pendingCalls permitted at most
  unfold MayRead at mayRead
  split at most
  · rename_i constructed
    refine ⟨List.length_eq_zero_iff.mp ?_, constructed, ?_⟩ <;> omega
  · omega

theorem Permitted.exclusive (within : Permitted callbacks) {left right : Nat}
    {first second : Program Instruction Unit} (before : left < right)
    (foundFirst : callbacks.running[left]? = some first)
    (foundSecond : callbacks.running[right]? = some second)
    (firstReads : MayRead connection first) (secondReads : MayRead connection second) : False := by
  have both := Threads.weights_le_sum (Program.permits (readsOf connection)) before foundFirst
    foundSecond
  have one := (within.reader (List.mem_of_getElem? foundFirst) firstReads).2.2
  unfold MayRead at firstReads secondReads
  omega

theorem Permitted.undisturbed {next : Callbacks} {turn : Turn Delivery}
    (within : Permitted callbacks) (running : program ∈ callbacks.running)
    (mayRead : MayRead connection program) (taken : interleave callbacks turn = .ok next) :
    (next.state.connections connection).oeRequest =
      (callbacks.state.connections connection).oeRequest := by
  obtain ⟨idle, constructed, -⟩ := within.reader running mayRead
  cases turn with
  | start delivery =>
      simp only [interleave, Threads.step] at taken
      split at taken
      · cases taken
      · rename_i delivered started startedOk
        cases taken
        exact deliver_oeRequest constructed idle startedOk
  | advance thread =>
      simp only [interleave, Threads.step] at taken
      split at taken
      · cases taken
        rfl
      · cases taken
        rfl
      · split at taken
        · cases taken
        · rename_i performed
          cases taken
          cases @effect_called connection _ _ _ _ performed with
          | same sameCalls => exact sameCalls.oeRequest
          | starts callback _ _ _ sameRequest => exact sameRequest
          | constructs userid unborn _ =>
              rw [constructed] at unborn
              cases unborn

end Reading

end Clients
end Server
end SpotExchange
