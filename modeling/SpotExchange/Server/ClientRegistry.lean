/-
The table of the clients while callbacks run on several threads, one action at a time. It
is one-to-one with the connections that have been entered, as long as an id is entered for
one connection and a connection removes the entry it has.
-/

import SpotExchange.Server.PendingOperations

namespace SpotExchange
namespace Server
namespace Clients

open Machine Program Wire OrderEntryStreamConnection

/-- Entries are those of connections that are there, no two of which are entered under one
id, and no connection has removed the entry of another. -/
structure OneToOne (clients : Clients) : Prop where
  live : ∀ userid connection, clients.clientStreams.lookup userid = some connection →
    (clients.connections connection).released = false ∧
      userid ∈ (clients.connections connection).registered
  distinct : ∀ left right userid, (clients.connections left).released = false →
    (clients.connections right).released = false →
    userid ∈ (clients.connections left).registered →
    userid ∈ (clients.connections right).registered → left = right
  own : ∀ removal ∈ clients.removals, removal.1 = removal.2

/-- Callbacks of any connections, with their actions interleaved. -/
abbrev Callbacks := Threads Clients Instruction

def interleave : Callbacks → Turn Delivery → Except WriterProblem Callbacks :=
  Threads.step deliver effect

def idle : Callbacks :=
  { state := start
    running := [] }

/-- Callbacks that run one after the other are one way to interleave them. -/
theorem deliveries_interleave {deliveries : List Delivery} {finish : Clients}
    (reached : run step start deliveries = .ok finish) :
    ∃ turns, run interleave idle turns =
      .ok { state := finish
            running := [] } :=
  Threads.handle_interleaves reached

/-- The entries under the user id of a connection are its own, and it has no other ones. -/
def ownEntries (clients : Clients) (self : ConnectionRef) (userid : UserId) : Bool :=
  clients.clientStreams.entries.all (fun entry =>
    (entry.1 == userid) == (entry.2 == self))

/-- An id is entered for a connection that is there, and is not that of another; where a
connection is deleted its user id is that of its entry, or of none. -/
def keepsOwn (clients : Clients) : Instruction → Bool
  | .emplace self userid =>
      (clients.connections self).constructed && !(clients.connections self).released &&
        match clients.clientStreams.lookup userid with
        | none => true
        | some connection => connection == self
  | .terminateConnection self => clients.ownEntries self (clients.connections self).userid
  | _ => true

def turnKeepsOwn (callbacks : Callbacks) (turn : Turn Delivery) : Bool :=
  match callbacks.action turn with
  | none => true
  | some instruction => callbacks.state.keepsOwn instruction

/-- Entries and entered connections agree. -/
structure Registry (clients : Clients) : Prop where
  live : ∀ userid connection, clients.clientStreams.lookup userid = some connection →
    (clients.connections connection).released = false ∧
      userid ∈ (clients.connections connection).registered
  complete : ∀ connection userid, (clients.connections connection).released = false →
    userid ∈ (clients.connections connection).registered →
    clients.clientStreams.lookup userid = some connection
  own : ∀ removal ∈ clients.removals, removal.1 = removal.2
  unborn : ∀ connection, (clients.connections connection).constructed = false →
    (clients.connections connection).registered = []

theorem Registry.oneToOne {clients : Clients} (registry : clients.Registry) :
    clients.OneToOne := by
  constructor
  · exact registry.live
  · intro left right userid leftLive rightLive leftEntered rightEntered
    have first := registry.complete left userid leftLive leftEntered
    have second := registry.complete right userid rightLive rightEntered
    exact Option.some.inj (first.symm.trans second)
  · exact registry.own

theorem start_registry : start.Registry := by
  constructor
  · intro userid connection found
    cases found
  · intro connection userid _ entered
    cases entered
  · intro removal member
    cases member
  · intro connection _
    rfl

/-- What the table depends on. -/
structure SameStanding (before after : Connection) : Prop where
  constructed : after.constructed = before.constructed
  registered : after.registered = before.registered
  released : after.released = before.released

theorem act_standing {connection next : Connection} {action : Connection.Action} {answer : Bool}
    (acted : connection.act action = .ok (answer, next)) : SameStanding connection next := by
  cases action with
  | writeToClient response =>
      rcases Connection.act_writeToClient acted with ⟨-, same⟩ | ⟨-, same⟩ <;> rw [same] <;>
        exact ⟨rfl, rfl, rfl⟩
  | sendFromQueue success =>
      rcases Connection.act_sendFromQueue acted with ⟨_, same⟩ | ⟨_, _, same⟩ <;> rw [same] <;>
        exact ⟨rfl, rfl, rfl⟩
  | _ =>
      cases acted
      exact ⟨rfl, rfl, rfl⟩

section Steps

variable {clients : Clients} {self : ConnectionRef}

theorem update_registry (registry : clients.Registry) {change : Connection → Connection}
    (same : SameStanding (clients.connections self) (change (clients.connections self))) :
    (clients.update self change).Registry := by
  have standing : ∀ connection,
      SameStanding (clients.connections connection)
        ((clients.update self change).connections connection) := by
    intro connection
    by_cases here : connection = self
    · rw [here, update_self]
      exact same
    · rw [update_other _ _ here]
      exact ⟨rfl, rfl, rfl⟩
  constructor
  · intro userid connection found
    rw [(standing connection).released, (standing connection).registered]
    exact registry.live userid connection found
  · intro connection userid live entered
    rw [(standing connection).released] at live
    rw [(standing connection).registered] at entered
    exact registry.complete connection userid live entered
  · exact registry.own
  · intro connection unborn
    rw [(standing connection).constructed] at unborn
    rw [(standing connection).registered]
    exact registry.unborn connection unborn

theorem construct_registry (registry : clients.Registry)
    (unborn : ¬(clients.connections self).constructed = true) (userid : UserId) :
    (clients.update self (fun _ => Connection.construct userid)).Registry := by
  have none := registry.unborn self (Bool.eq_false_iff.mpr unborn)
  constructor
  · intro key connection found
    have known := registry.live key connection found
    by_cases here : connection = self
    · rw [here, none] at known
      cases known.2
    · rw [update_other _ _ here]
      exact known
  · intro connection key live entered
    by_cases here : connection = self
    · rw [here, update_self] at entered
      cases entered
    · rw [update_other _ _ here] at live entered
      exact registry.complete connection key live entered
  · exact registry.own
  · intro connection absent
    by_cases here : connection = self
    · rw [here, update_self]
      rfl
    · rw [update_other _ _ here] at absent ⊢
      exact registry.unborn connection absent

theorem connections_emplace (clients : Clients) (self : ConnectionRef) (userid : UserId) :
    (clients.emplace self userid).connections =
      (clients.update self (fun here =>
        { here.touch with registered := userid :: here.registered })).connections := by
  unfold emplace
  split <;> rfl

theorem removals_emplace (clients : Clients) (self : ConnectionRef) (userid : UserId) :
    (clients.emplace self userid).removals = clients.removals := by
  unfold emplace
  split <;> rfl

/-- Where the id is free or the connection's own, it is the connection's afterwards. -/
theorem lookup_emplace {userid : UserId}
    (free : ∀ owner, clients.clientStreams.lookup userid = some owner → owner = self)
    (key : UserId) :
    (clients.emplace self userid).clientStreams.lookup key =
      if key = userid then some self else clients.clientStreams.lookup key := by
  unfold emplace
  cases known : clients.clientStreams.lookup userid with
  | none =>
      simp only [Option.isSome_none, Bool.false_eq_true, if_false]
      by_cases same : key = userid
      · rw [if_pos same, same, AList.lookup_insert]
      · rw [if_neg same, AList.lookup_insert_ne same]
  | some owner =>
      simp only [Option.isSome_some, if_true]
      by_cases same : key = userid
      · rw [if_pos same, same, ← free owner known]
        exact known
      · rw [if_neg same]
        rfl

theorem emplace_registry (registry : clients.Registry) {userid : UserId}
    (keeps : clients.keepsOwn (.emplace self userid) = true) :
    (clients.emplace self userid).Registry := by
  simp only [keepsOwn, Bool.and_eq_true, Bool.not_eq_true'] at keeps
  obtain ⟨⟨constructed, live⟩, own⟩ := keeps
  have free : ∀ owner, clients.clientStreams.lookup userid = some owner → owner = self := by
    intro owner known
    rw [known] at own
    exact eq_of_beq own
  have found := lookup_emplace free
  have entered := connections_emplace clients self userid
  constructor
  · intro key connection here
    rw [found] at here
    rw [entered]
    split at here
    · rename_i equal
      rw [← Option.some.inj here, update_self, equal]
      exact ⟨live, List.mem_cons_self⟩
    · have known := registry.live key connection here
      by_cases own : connection = self
      · rw [own] at known ⊢
        rw [update_self]
        exact ⟨known.1, List.mem_cons_of_mem _ known.2⟩
      · rw [update_other _ _ own]
        exact known
  · intro connection key alive member
    rw [entered] at alive member
    rw [found]
    by_cases own : connection = self
    · rw [own] at alive member ⊢
      rw [update_self] at member
      rcases List.mem_cons.mp member with equal | before
      · rw [if_pos equal]
      · split
        · rfl
        · exact registry.complete self key live before
    · rw [update_other _ _ own] at alive member
      have known := registry.complete connection key alive member
      rw [if_neg, known]
      intro equal
      rw [equal] at known
      exact own (free connection known)
  · rw [removals_emplace]
    exact registry.own
  · intro connection unborn
    rw [entered] at unborn ⊢
    by_cases own : connection = self
    · rw [own, update_self] at unborn
      change (clients.connections self).constructed = false at unborn
      rw [constructed] at unborn
      cases unborn
    · rw [update_other _ _ own] at unborn ⊢
      exact registry.unborn connection unborn

theorem ownEntries_iff {userid key : UserId} {connection : ConnectionRef}
    (own : clients.ownEntries self userid = true)
    (found : clients.clientStreams.lookup key = some connection) :
    key = userid ↔ connection = self := by
  have listed := List.all_eq_true.mp own _ (AList.mem_lookup_iff.mp found)
  have same : (key == userid) = (connection == self) := eq_of_beq listed
  rw [← beq_iff_eq, same, beq_iff_eq]

theorem terminate_registry (registry : clients.Registry)
    (keeps : clients.keepsOwn (.terminateConnection self) = true) :
    (clients.terminate self).Registry := by
  have own : ∀ {key connection}, clients.clientStreams.lookup key = some connection →
      (key = (clients.connections self).userid ↔ connection = self) :=
    fun found => ownEntries_iff keeps found
  have left : ∀ {key}, key ≠ (clients.connections self).userid →
      (clients.terminate self).clientStreams.lookup key = clients.clientStreams.lookup key :=
    fun different => AList.lookup_erase_ne different
  have erased :
      (clients.terminate self).clientStreams.lookup (clients.connections self).userid = none :=
    AList.lookup_erase _ _
  have other : ∀ {connection}, connection ≠ self →
      (clients.terminate self).connections connection = clients.connections connection :=
    fun different => Function.update_of_ne different _ _
  have deleted : ((clients.terminate self).connections self).released = true := by
    simp only [terminate, update_self]
  constructor
  · intro key connection found
    by_cases same : key = (clients.connections self).userid
    · rw [same, erased] at found
      cases found
    · rw [left same] at found
      have different : connection ≠ self := fun equal => same ((own found).mpr equal)
      rw [other different]
      exact registry.live key connection found
  · intro connection key live entered
    by_cases same : connection = self
    · rw [same, deleted] at live
      cases live
    · rw [other same] at live entered
      have found := registry.complete connection key live entered
      rw [left (fun equal => same ((own found).mp equal))]
      exact found
  · intro removal member
    simp only [terminate] at member
    split at member
    · exact registry.own removal member
    · rename_i owner found
      rcases List.mem_cons.mp member with equal | before
      · rw [equal]
        exact ((own found).mp rfl).symm
      · exact registry.own removal before
  · intro connection unborn
    by_cases same : connection = self
    · rw [same] at unborn ⊢
      simp only [terminate, update_self] at unborn ⊢
      exact registry.unborn self unborn
    · rw [other same] at unborn ⊢
      exact registry.unborn connection unborn

/-- What an action of a callback does to the table. -/
theorem effect_registry {instruction : Instruction} {answer : Bool} {next : Clients}
    (registry : clients.Registry) (keeps : clients.keepsOwn instruction = true)
    (performed : clients.effect instruction = .ok (answer, next)) : next.Registry := by
  cases instruction with
  | on self action =>
      simp only [effect] at performed
      split at performed
      · cases performed
      · rename_i given connection acted
        cases performed
        have standing := act_standing acted
        exact update_registry registry
          { constructed := standing.constructed
            registered := standing.registered
            released := standing.released }
  | createNewConn self fresh userid =>
      simp only [effect] at performed
      split at performed
      · cases performed
      · rename_i unborn
        cases performed
        have touched : (clients.update self Connection.touch).Registry :=
          update_registry registry ⟨rfl, rfl, rfl⟩
        apply construct_registry touched
        by_cases same : fresh = self
        · rw [same] at unborn ⊢
          rw [update_self]
          exact unborn
        · rw [update_other _ _ same]
          exact unborn
  | find self userid =>
      cases performed
      exact update_registry registry ⟨rfl, rfl, rfl⟩
  | emplace self userid =>
      cases performed
      exact emplace_registry registry keeps
  | terminateConnection self =>
      cases performed
      exact terminate_registry registry keeps
  | nextEntry self userid =>
      cases performed
      exact update_registry registry ⟨rfl, rfl, rfl⟩

/-- A delivery does not change the table. -/
theorem deliver_registry {delivery : Delivery} {next : Clients}
    {program : Program Instruction Unit} (registry : clients.Registry)
    (started : clients.deliver delivery = .ok (next, program)) : next.Registry := by
  cases delivery with
  | makeNewOrderEntryConnection fresh userid =>
      simp only [deliver] at started
      split at started
      · cases started
      · rename_i unborn
        cases started
        exact construct_registry registry unborn userid
  | shutdownServer order =>
      simp only [deliver] at started
      split at started
      · cases started
        exact registry
      · cases started
  | _ =>
      simp only [deliver] at started
      split at started
      · cases started
        exact update_registry registry ⟨rfl, rfl, rfl⟩
      · cases started

end Steps

theorem interleave_registry {callbacks next : Callbacks} {turn : Turn Delivery}
    (registry : callbacks.state.Registry) (keeps : turnKeepsOwn callbacks turn = true)
    (taken : interleave callbacks turn = .ok next) : next.state.Registry := by
  apply Threads.step_preserves (fun clients instruction => clients.keepsOwn instruction = true)
    (fun _ _ _ _ here started => deliver_registry here started)
    (fun _ _ _ _ here permitted performed => effect_registry here permitted performed)
    registry _ taken
  intro instruction performs
  simpa only [turnKeepsOwn, performs] using keeps

/-- However the callbacks are interleaved, the table is one-to-one as long as each id is
entered for one connection, and each connection that is deleted removes its own entry. -/
theorem table_one_to_one {turns : List (Turn Delivery)}
    (keeps : Guarded interleave (fun callbacks turn => turnKeepsOwn callbacks turn = true) idle
      turns) :
    Always interleave (fun callbacks => callbacks.state.OneToOne) idle turns :=
  Guarded.always (fun _ registry => registry.oneToOne) (fun _ _ _ => interleave_registry)
    start_registry keeps

/-! ### Clients that come under one id -/

/-- A callback that runs while no other one does. -/
def undivided (delivery : Delivery) : List (Turn Delivery) :=
  .start delivery :: List.replicate 16 (.advance 0)

def undividedVisit : List (Turn Delivery) :=
  (visit cancelsSomething [.written 1 0 true]).flatMap undivided

theorem undividedVisit_one_to_one :
    Always interleave (fun callbacks => callbacks.state.OneToOne) idle undividedVisit :=
  table_one_to_one (by decide +kernel)

/-- Two clients are accepted; `unset` is what the second one has for a user id. -/
def arrivals (unset : UserId) : List (Turn Delivery) :=
  undivided (.makeNewOrderEntryConnection 1 0) ++
  undivided (.requested 1 true 2 unset) ++
  undivided (.requested 2 true 3 0)

/-- Both look user 7 up before either enters it. -/
def race : List (Turn Delivery) :=
  arrivals 0 ++
  [.start (.firstRead 1 true (.cancelOrder { orderCommon := asked }) cancelsSomething),
    .start (.firstRead 2 true (.cancelOrder { orderCommon := asked }) cancelsSomething),
    .advance 0, .advance 1, .advance 0, .advance 1]

/-- The second is refused, and its unset user id happens to be that of the first. -/
def refusal : List (Turn Delivery) :=
  arrivals 7 ++
  undivided (.firstRead 1 true (.cancelOrder { orderCommon := asked }) cancelsSomething) ++
  undivided (.firstRead 2 true (.cancelOrder { orderCommon := asked }) cancelsSomething) ++
  undivided (.written 2 0 true)

/-- Two connections that are there are entered under one id; and a refused connection
removes the entry of another. -/
theorem race_enters_twice :
    (∃ finish, run interleave idle race = .ok finish ∧
      (finish.state.connections 1).released = false ∧
      (finish.state.connections 2).released = false ∧
      7 ∈ (finish.state.connections 1).registered ∧
      7 ∈ (finish.state.connections 2).registered) ∧
    (∃ finish, run interleave idle refusal = .ok finish ∧
      (finish.state.connections 1).released = false ∧
      finish.state.removals = [(2, 1)]) := by
  constructor
  · have evaluated :
        (run interleave idle race).toOption.map (fun callbacks =>
            ((callbacks.state.connections 1).released, (callbacks.state.connections 2).released,
              (callbacks.state.connections 1).registered,
              (callbacks.state.connections 2).registered)) =
          some (false, false, [7], [7]) := by
      decide +kernel
    obtain ⟨finish, reached, seen⟩ := returns_of_view evaluated
    obtain ⟨first, rest⟩ := Prod.mk.inj seen
    obtain ⟨second, lists⟩ := Prod.mk.inj rest
    obtain ⟨left, right⟩ := Prod.mk.inj lists
    refine ⟨finish, reached, first, second, ?_, ?_⟩
    · rw [left]
      exact List.mem_singleton_self 7
    · rw [right]
      exact List.mem_singleton_self 7
  · have evaluated :
        (run interleave idle refusal).toOption.map (fun callbacks =>
            ((callbacks.state.connections 1).released, callbacks.state.removals)) =
          some (false, [(2, 1)]) := by
      decide +kernel
    obtain ⟨finish, reached, seen⟩ := returns_of_view evaluated
    exact ⟨finish, reached, Prod.mk.inj seen⟩

end Clients
end Server
end SpotExchange
