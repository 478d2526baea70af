import Mathlib.Data.List.Induction
import Concordance.Proofs.Service.Safety

/-!
# The members as a history tells them

Joins replace records, changes of state overwrite them, and either may name any identifier,
that of the local node included. What stands in the table is told by the history alone: under
an identifier stands the last node that joined under it, in the state that it was given last
since then. Every way to read the members tells this same list.

* `Command.LastJoin`, `Command.stateAfter`: what a history tells about one identifier.
* `Membership.get?_foldl_after`: the record under an identifier, by induction from the end of
  the history.
* `Membership.Told`, `Membership.Told.unique`: the one list of members that a history tells.
* `Coordinator.ReadsFrom`: every answer about the members is read from one list of them.
* `Coordinator.OnlyChangesState`: a change of state changes one record in nothing else.
* `Command.told_members_run`: all this, at every point of every history.
-/

namespace Concordance

/-! ## What a history tells about one identifier -/

namespace Command

variable {id : NodeId} {history later : List Command} {command : Command} {node : Node}

/-- The command lets a node join under the identifier. -/
def Joins (id : NodeId) (command : Command) : Prop := ∃ node, command = join node ∧ node.id = id

/-- The state that a command gives to the node under the identifier, if it gives it one. -/
def stateFor? (id : NodeId) : Command → Option NodeState
  | setState id' state => if id' = id then some state else none
  | _ => none

/-- The last node to join under the identifier is `node`, and `later` is what came after that. -/
structure LastJoin (id : NodeId) (history : List Command) (node : Node)
    (later : List Command) : Prop where
  id_eq : node.id = id
  joined : ∃ earlier, history = earlier ++ join node :: later
  last : ∀ command ∈ later, ¬ command.Joins id

/-- The state of a node that joined as `joined`: the one that it was given last, if any. -/
def stateAfter (id : NodeId) (joined : NodeState) (later : List Command) : NodeState :=
  (later.filterMap (stateFor? id)).getLast?.getD joined

/-- The record under the identifier, as a history tells it. -/
def Recorded (id : NodeId) (history : List Command) (n : Node) : Prop :=
  ∃ node later, LastJoin id history node later ∧
    n = { node with state := stateAfter id node.state later }

theorem stateAfter_concat (id : NodeId) (joined : NodeState) (later : List Command)
    (command : Command) : stateAfter id joined (later ++ [command]) =
      (command.stateFor? id).getD (stateAfter id joined later) := by
  unfold stateAfter
  rw [List.filterMap_append, List.filterMap_cons, List.filterMap_nil]
  cases command.stateFor? id with
  | none => rw [List.append_nil]; rfl
  | some state => rw [List.getLast?_concat]; rfl

/-- The last join in a history with one more command: this command, or the last one before. -/
theorem lastJoin_concat_iff : LastJoin id (history ++ [command]) node later ↔
    command = join node ∧ node.id = id ∧ later = [] ∨
    ¬ command.Joins id ∧ ∃ before, later = before ++ [command] ∧
      LastJoin id history node before := by
  constructor
  · rintro ⟨own, ⟨earlier, split⟩, last⟩
    rcases List.eq_nil_or_concat' later with rfl | ⟨before, final, rfl⟩
    · obtain ⟨-, same⟩ := List.append_inj' split rfl
      exact .inl ⟨List.head_eq_of_cons_eq same, own, rfl⟩
    · rw [← List.cons_append, ← List.append_assoc] at split
      obtain ⟨before_eq, same⟩ := List.append_inj' split rfl
      obtain rfl : command = final := List.head_eq_of_cons_eq same
      refine .inr ⟨last command (by simp), before, rfl, own, ⟨earlier, before_eq⟩, ?_⟩
      exact fun c mem => last c (List.mem_append_left _ mem)
  · rintro (⟨rfl, own, rfl⟩ | ⟨other, before, rfl, own, ⟨earlier, rfl⟩, last⟩)
    · exact ⟨own, ⟨history, rfl⟩, fun c mem => absurd mem List.not_mem_nil⟩
    · refine ⟨own, ⟨earlier, by simp⟩, fun c mem => ?_⟩
      rcases List.mem_append.mp mem with mem | mem
      · exact last c mem
      · rw [List.mem_singleton.mp mem]
        exact other

/-- There is one last join under an identifier, and one list of what came after it. -/
theorem LastJoin.unique {node' : Node} {later' : List Command}
    (h : LastJoin id history node later) (h' : LastJoin id history node' later') :
    node = node' ∧ later = later' := by
  induction history using List.reverseRecOn generalizing later later' with
  | nil =>
    obtain ⟨_, split⟩ := h.joined
    simp at split
  | append_singleton history command ih =>
    rcases lastJoin_concat_iff.mp h with ⟨rfl, own, rfl⟩ | ⟨other, before, rfl, last⟩ <;>
      rcases lastJoin_concat_iff.mp h' with ⟨same, own', rfl⟩ | ⟨other', before', rfl, last'⟩
    · cases same
      exact ⟨rfl, rfl⟩
    · exact absurd ⟨node, rfl, own⟩ other'
    · exact absurd ⟨node', same, own'⟩ other
    · obtain ⟨rfl, rfl⟩ := ih last last'
      exact ⟨rfl, rfl⟩

/-- A node that joined last is recorded as it joined. -/
theorem recorded_concat_join_iff {n : Node} (own : node.id = id) :
    Recorded id (history ++ [join node]) n ↔ n = node := by
  unfold Recorded
  simp only [lastJoin_concat_iff]
  constructor
  · rintro ⟨_, _, ⟨same, -, rfl⟩ | ⟨other, -⟩, rfl⟩
    · cases same
      rfl
    · exact absurd ⟨node, rfl, own⟩ other
  · rintro rfl
    exact ⟨n, [], .inl ⟨rfl, own, rfl⟩, rfl⟩

/-- Any other command changes at most the state of a record. -/
theorem recorded_concat_iff {n : Node} (other : ¬ command.Joins id) :
    Recorded id (history ++ [command]) n ↔ ∃ old, Recorded id history old ∧
      n = { old with state := (command.stateFor? id).getD old.state } := by
  unfold Recorded
  simp only [lastJoin_concat_iff]
  constructor
  · rintro ⟨node, _, ⟨rfl, own, -⟩ | ⟨-, before, rfl, last⟩, rfl⟩
    · exact absurd ⟨node, rfl, own⟩ other
    · exact ⟨_, ⟨node, before, last, rfl⟩, by rw [stateAfter_concat]⟩
  · rintro ⟨_, ⟨node, before, last, rfl⟩, rfl⟩
    exact ⟨node, before ++ [command], .inr ⟨other, before, rfl, last⟩, by rw [stateAfter_concat]⟩

/-- Something is recorded under an identifier just if a node joined under it. -/
theorem exists_recorded_iff : (∃ n, Recorded id history n) ↔
    ∃ node, join node ∈ history ∧ node.id = id := by
  induction history using List.reverseRecOn with
  | nil =>
    refine iff_of_false ?_ (by simp)
    rintro ⟨_, _, _, ⟨_, ⟨_, split⟩, _⟩, _⟩
    simp at split
  | append_singleton history command ih =>
    by_cases joins : command.Joins id
    · obtain ⟨node, rfl, own⟩ := joins
      exact iff_of_true ⟨node, (recorded_concat_join_iff own).mpr rfl⟩ ⟨node, by simp, own⟩
    · have before : (∃ n, Recorded id (history ++ [command]) n) ↔ ∃ n, Recorded id history n := by
        simp only [recorded_concat_iff joins]
        exact ⟨fun ⟨_, old, told, _⟩ => ⟨old, told⟩, fun ⟨old, told⟩ => ⟨_, old, told, rfl⟩⟩
      rw [before, ih]
      refine exists_congr fun node => and_congr_left fun own => ?_
      rw [List.mem_append, List.mem_singleton]
      exact (or_iff_left fun same => joins ⟨node, same.symm, own⟩).symm

end Command

/-! ## The table -/

namespace Membership

open Command

variable {m : Membership}

/-- A command that is no join under the identifier changes at most the state of its record. -/
theorem get?_after {id : NodeId} {command : Command} (other : ¬ command.Joins id) :
    (m.after command).get? id =
      (m.get? id).map fun n => { n with state := (command.stateFor? id).getD n.state } := by
  have kept : (m.get? id).map (fun n => { n with state := n.state }) = m.get? id :=
    Option.map_id_apply
  cases command with
  | join node => exact (get?_join_of_ne m fun own => other ⟨node, rfl, own.symm⟩).trans kept.symm
  | setState id' state =>
    by_cases same : id' = id
    · subst same
      simp only [after, stateFor?, get?_setState_self, if_true, Option.getD_some]
    · simp only [after, stateFor?, if_neg same, Option.getD_none]
      exact (get?_setState_of_ne m (Ne.symm same) state).trans kept.symm
  | _ => exact kept.symm

/-- The record under an identifier, after a history that starts with no member. -/
theorem get?_foldl_after (localNode : Node) (history : List Command) (id : NodeId) (n : Node) :
    (history.foldl after ⟨localNode, ∅⟩).get? id = some n ↔ Recorded id history n := by
  induction history using List.reverseRecOn generalizing n with
  | nil =>
    refine iff_of_false (fun found => by cases found) fun told => ?_
    obtain ⟨_, mem, _⟩ := exists_recorded_iff.mp ⟨n, told⟩
    cases mem
  | append_singleton history command ih =>
    rw [List.foldl_append, List.foldl_cons, List.foldl_nil]
    by_cases joins : command.Joins id
    · obtain ⟨node, rfl, rfl⟩ := joins
      rw [recorded_concat_join_iff rfl, after, get?_join_self, Option.some_inj, eq_comm]
    · rw [get?_after joins, recorded_concat_iff joins, Option.map_eq_some_iff]
      exact exists_congr fun old => and_congr (ih old) eq_comm

/-- A membership with peers is that of a history of joins. -/
theorem withPeers_eq_foldl_after (localNode : Node) (peers : List Node) :
    withPeers localNode peers =
      ((localNode :: peers).map Command.join).foldl after ⟨localNode, ∅⟩ := by
  rw [List.foldl_map]
  rfl

/-- The members, as a history tells them. -/
structure Told (history : List Command) (members : List Node) : Prop where
  ascending : members.Pairwise fun a b => a.id < b.id
  /-- The identifiers are those of the nodes that joined. -/
  ids : ∀ id, id ∈ members.map Node.id ↔ ∃ node, .join node ∈ history ∧ node.id = id
  /-- Each record has the addresses of the last node that joined under its identifier, and the
  state that this node was given last since then. -/
  records : ∀ n ∈ members, ∃ node later, LastJoin n.id history node later ∧
    n.addresses = node.addresses ∧ n.state = stateAfter n.id node.state later

/-- A history tells one list of members. -/
theorem Told.unique {history : List Command} {members members' : List Node}
    (h : Told history members) (h' : Told history members') : members = members' := by
  have included {l l' : List Node} (h : Told history l) (h' : Told history l') : ∀ n ∈ l, n ∈ l' := by
    intro n mem
    have known : n.id ∈ l'.map Node.id :=
      (h'.ids n.id).mpr ((h.ids n.id).mp (List.mem_map_of_mem mem))
    obtain ⟨n', mem', same⟩ := List.mem_map.mp known
    obtain ⟨node, later, last, addresses, state⟩ := h.records n mem
    obtain ⟨node', later', last', addresses', state'⟩ := h'.records n' mem'
    rw [same] at last' state'
    obtain ⟨rfl, rfl⟩ := last.unique last'
    obtain rfl : n' = n := by
      cases n'
      cases n
      simp_all
    exact mem'
  exact eq_of_pairwise_id h.ascending h'.ascending fun n => ⟨included h h' n, included h' h n⟩

theorem Reachable.told (reached : m.Reachable) {history : List Command}
    (recorded : ∀ id n, m.get? id = some n ↔ Recorded id history n) :
    Told history m.members := by
  refine ⟨reached.pairwise_members, fun id => ?_, fun n mem => ?_⟩
  · rw [← exists_recorded_iff, List.mem_map]
    constructor
    · rintro ⟨n, mem, rfl⟩
      exact ⟨n, (recorded n.id n).mp (reached.mem_members_iff.mp mem)⟩
    · rintro ⟨n, told⟩
      have found := (recorded id n).mpr told
      exact ⟨n, mem_members.mpr ⟨id, found⟩, reached.id_eq found⟩
  · obtain ⟨node, later, last, same⟩ := (recorded n.id n).mp (reached.mem_members_iff.mp mem)
    refine ⟨node, later, last, ?_⟩
    generalize stateAfter n.id node.state later = state at same
    subst same
    exact ⟨rfl, rfl⟩

/-! ## Reading the members -/

/-- Looking a node up is searching the members for it. -/
theorem Reachable.find?_members (reached : m.Reachable) (id : NodeId) :
    m.members.find? (fun n => n.id = id) = m.get? id := by
  cases found : m.members.find? fun n => n.id = id with
  | none =>
    refine (Option.eq_none_iff_forall_ne_some.mpr fun n known => ?_).symm
    have other := List.find?_eq_none.mp found n (mem_members.mpr ⟨id, known⟩)
    exact other (decide_eq_true (reached.id_eq known))
  | some n =>
    obtain rfl : n.id = id := by simpa using List.find?_some found
    exact (reached.mem_members_iff.mp (List.mem_of_find?_eq_some found)).symm

theorem length_members (m : Membership) : m.members.length = m.size := List.length_map _

theorem isEmpty_members (m : Membership) : m.members.isEmpty = m.isEmpty := List.isEmpty_map

/-- Gives a state to the node with the identifier, and leaves every other one as it is. -/
def giveState (id : NodeId) (state : NodeState) (n : Node) : Node :=
  if n.id = id then { n with state } else n

theorem giveState_id (id : NodeId) (state : NodeState) (n : Node) :
    (giveState id state n).id = n.id := by
  unfold giveState
  split <;> rfl

/-- A change of state goes through the members and gives the state to the one that is named. -/
theorem Reachable.members_setState (reached : m.Reachable) (id : NodeId) (state : NodeState) :
    (m.setState id state).2.members = m.members.map (giveState id state) := by
  have changed := reached.setState id state
  have ordered : (m.members.map (giveState id state)).Pairwise fun a b => a.id < b.id := by
    refine List.pairwise_map.mpr (reached.pairwise_members.imp fun lt => ?_)
    rwa [giveState_id, giveState_id]
  refine eq_of_pairwise_id changed.pairwise_members ordered fun n => ?_
  have given : n ∈ m.members.map (giveState id state) ↔
      ∃ old, m.get? n.id = some old ∧ giveState id state old = n := by
    rw [List.mem_map]
    refine exists_congr fun old => and_congr_left fun given => ?_
    rw [reached.mem_members_iff, ← given, giveState_id]
  rw [changed.mem_members_iff, given]
  by_cases named : n.id = id
  · rw [named, get?_setState_self, Option.map_eq_some_iff]
    refine exists_congr fun old => and_congr_right fun known => ?_
    rw [giveState, if_pos (reached.id_eq known)]
  · rw [get?_setState_of_ne m named]
    constructor
    · exact fun known => ⟨n, known, if_neg named⟩
    · rintro ⟨old, known, rfl⟩
      rw [giveState_id] at named known
      rwa [giveState, if_neg named]

/-- A change of state is answered by whether some member has the identifier. -/
theorem Reachable.setState_fst_eq (reached : m.Reachable) (id : NodeId) (state : NodeState) :
    (m.setState id state).1 = decide (id ∈ m.members.map Node.id) := by
  rw [setState_fst, Bool.eq_iff_iff, decide_eq_true_iff, Option.isSome_iff_exists, List.mem_map]
  constructor
  · rintro ⟨n, known⟩
    exact ⟨n, mem_members.mpr ⟨id, known⟩, reached.id_eq known⟩
  · rintro ⟨n, mem, rfl⟩
    exact ⟨n, reached.mem_members_iff.mp mem⟩

theorem localNode_setState (m : Membership) (id : NodeId) (state : NodeState) :
    (m.setState id state).2.localNode = m.localNode := by
  unfold setState
  split <;> rfl

end Membership

/-! ## Coordinators -/

namespace Coordinator

open Command

/-- Every answer about the members is read from the one list of them, and changes nothing. -/
structure ReadsFrom (c : Coordinator) (list : List Node) : Prop where
  members : perform .members c = (.nodes list, c)
  alive : perform .alive c = (.nodes (list.filter fun n => n.state = .alive), c)
  getMember : ∀ id, perform (.getMember id) c = (.member (list.find? fun n => n.id = id), c)
  size : c.membership.size = list.length
  isEmpty : c.membership.isEmpty = list.isEmpty
  requestNodes : perform .requestNodes c = (.nodesReply ⟨.ok,
    ⟨UInt64.ofNat (list.filter fun n => n.state = .alive).length, list⟩⟩, c)

/-- A change of state is answered by whether there is such a member, and changes nothing but
the state of that member. -/
structure OnlyChangesState (c : Coordinator) (list : List Node) : Prop where
  answer : ∀ id state, (perform (.setState id state) c).1 = .known (id ∈ list.map Node.id)
  members : ∀ id state, (perform (.setState id state) c).2.membership.members =
    list.map (Membership.giveState id state)
  others : ∀ id state, (perform (.setState id state) c).2 = { c with
    membership := ⟨c.membership.localNode, (perform (.setState id state) c).2.membership.table⟩ }

variable {c : Coordinator}

theorem readsFrom_members (reached : c.membership.Reachable) :
    c.ReadsFrom c.membership.members where
  members := rfl
  alive := rfl
  getMember id := by
    rw [reached.find?_members]
    rfl
  size := c.membership.length_members.symm
  isEmpty := c.membership.isEmpty_members.symm
  requestNodes := by
    rw [← List.countP_eq_length_filter]
    rfl

theorem onlyChangesState_members (reached : c.membership.Reachable) :
    c.OnlyChangesState c.membership.members where
  answer id state := congrArg Answer.known (reached.setState_fst_eq id state)
  members id state := reached.members_setState id state
  others id state := by
    rw [← c.membership.localNode_setState id state]
    rfl

end Coordinator

namespace Command

theorem membership_run (commands : List Command) (c : Coordinator) :
    (run commands c).2.membership = commands.foldl Membership.after c.membership := by
  induction commands generalizing c with
  | nil => rfl
  | cons command rest ih => rw [run_cons, ih, membership_perform, List.foldl_cons]

/-- At every point of every history, the members are what the history tells, where the local
node and the peers are the first to join; all answers about them are read from this list; and a
change of state changes nothing else in it. -/
theorem told_members_run (localNode : Node) (peers : List Node) (placement : Placement)
    (port : UInt16) (load : LoadTable) (commands : List Command) :
    let c := (run commands ⟨placement, port, .withPeers localNode peers, load⟩).2
    Membership.Told ((localNode :: peers).map join ++ commands) c.membership.members ∧
      c.ReadsFrom c.membership.members ∧ c.OnlyChangesState c.membership.members := by
  intro c
  have reached : c.membership.Reachable := reachable_run (.withPeers localNode peers) commands
  have replayed : c.membership =
      ((localNode :: peers).map join ++ commands).foldl Membership.after ⟨localNode, ∅⟩ := by
    rw [List.foldl_append, ← Membership.withPeers_eq_foldl_after]
    exact membership_run commands _
  refine ⟨reached.told fun id n => ?_, Coordinator.readsFrom_members reached,
    Coordinator.onlyChangesState_members reached⟩
  rw [replayed]
  exact Membership.get?_foldl_after localNode _ id n

/-- A peer may go by the identifier of the local node. It takes its place, and what was said of
the state of a node before it joined again no longer counts. -/
example : (run [.setState "a" .dead, .setState "b" .suspect, .join (.new "b" ["10.0.0.9"]),
    .setState "c" .dead] ⟨.new 4 2, 8100,
      .withPeers (.new "a" ["10.0.0.1"]) [.new "b" ["10.0.0.2"], .new "a" ["10.0.0.3"]],
      ∅⟩).2.membership.members = [⟨"a", ["10.0.0.3"], .dead⟩, .new "b" ["10.0.0.9"]] := by
  decide +kernel

end Command

end Concordance
