import Lehen.ConnectionIds
import Lehen.Keeping

/-!
The numbers of a (user, instance) pair: in the order of insertion they count
from zero without a gap, since a grant takes the successor of the highest one
and nothing else writes the column.
-/

namespace Lehen.Numbering

open Storage OAuth AuditService ConnectionsService Footprint Granting ConnectionIds Keeping
open Prog (Leaves leaves_mono)

variable {N : Type}

def ofPair (userSub instanceId : String) (row : ConnectionRow) : Bool :=
  row.userSub = userSub && row.integrationInstanceId = instanceId

/-- The numbers of a pair, in the order its rows were inserted. -/
def seqs (rows : List ConnectionRow) (userSub instanceId : String) : List Nat :=
  (rows.filter (ofPair userSub instanceId)).map ConnectionRow.connectionSeq

def Contiguous (rows : List ConnectionRow) : Prop :=
  ∀ userSub instanceId, ∃ count, seqs rows userSub instanceId = List.range count

theorem max_range (count : Nat) : seqAfter (List.range count).max? = count := by
  cases count with
  | zero => rfl
  | succ last =>
      have top : (List.range (last + 1)).max? = some last := by
        apply List.max?_eq_some_iff.mpr
        constructor
        · exact List.mem_range.mpr (Nat.lt_succ_self last)
        · intro seq member
          exact Nat.le_of_lt_succ (List.mem_range.mp member)
      rw [top]
      rfl

theorem next_number (store : Store) (userSub instanceId : String) :
    store.maxSeq userSub instanceId = (seqs store.connections userSub instanceId).max? := rfl

/-! What updates and inserts keep. -/

theorem seqs_update (rows : List ConnectionRow) (id : String) (set : ConnectionSet)
    (userSub instanceId : String) :
    seqs (setWhereId id set rows) userSub instanceId = seqs rows userSub instanceId := by
  induction rows with
  | nil => rfl
  | cons row rest ih =>
      have columns : ofPair userSub instanceId (if row.id = id then set.apply row else row) =
          ofPair userSub instanceId row ∧
            (if row.id = id then set.apply row else row).connectionSeq = row.connectionSeq := by
        by_cases hit : row.id = id
        · rw [if_pos hit]
          cases set <;> exact ⟨rfl, rfl⟩
        · rw [if_neg hit]
          exact ⟨rfl, rfl⟩
      have tail : ((setWhereId id set rest).filter (ofPair userSub instanceId)).map
          ConnectionRow.connectionSeq = (rest.filter (ofPair userSub instanceId)).map
            ConnectionRow.connectionSeq := ih
      rw [setWhereId] at tail
      simp only [seqs, setWhereId, List.map_cons, List.filter_cons, columns.1]
      by_cases own : ofPair userSub instanceId row = true
      · simp only [own, if_true, List.map_cons, columns.2, tail]
      · simp only [own, Bool.false_eq_true, if_false, tail]

theorem seqs_insert (rows : List ConnectionRow) (row : ConnectionRow) (userSub instanceId : String) :
    seqs (rows ++ [row]) userSub instanceId =
      if ofPair userSub instanceId row then seqs rows userSub instanceId ++ [row.connectionSeq]
      else seqs rows userSub instanceId := by
  by_cases own : ofPair userSub instanceId row = true
  · simp [seqs, List.filter_append, own]
  · simp [seqs, List.filter_append, own]

theorem contiguous_insert (store : Store) (row : ConnectionRow)
    (contiguous : Contiguous store.connections)
    (next : row.connectionSeq = seqAfter (store.maxSeq row.userSub row.integrationInstanceId)) :
    Contiguous (store.connections ++ [row]) := by
  intro userSub instanceId
  obtain ⟨count, counted⟩ := contiguous userSub instanceId
  rw [seqs_insert, counted]
  by_cases own : ofPair userSub instanceId row = true
  · have pair := own
    simp only [ofPair, Bool.and_eq_true, decide_eq_true_eq] at pair
    rw [pair.1, pair.2, next_number, counted, max_range] at next
    rw [if_pos own, next, ← List.range_succ]
    exact ⟨count + 1, rfl⟩
  · rw [if_neg own]
    exact ⟨count, rfl⟩

/-! Over a request, and over every sequence of completed requests. -/

theorem counting_kept (outside : Outside N) (userSub instanceId : String) (view : GrantView) (op : Op)
    (world : World N)
    (start : Contiguous world.store.connections ∧
      ∀ seq, view.seq = some seq → seq = seqAfter (world.store.maxSeq userSub instanceId))
    (allowed : (grantMonitor userSub instanceId).allowed view op) :
    Contiguous (exec outside op world).2.store.connections ∧
      ∀ seq, ((grantMonitor userSub instanceId).next view op (exec outside op world).1).seq =
          some seq →
        seq = seqAfter ((exec outside op world).2.store.maxSeq userSub instanceId) := by
  rcases allowed_cases allowed with ⟨row, rfl, licensed⟩ | calm
  · constructor
    · rcases exec_moves outside (.insertConnection row) world with same | same
      · rw [same]
        exact start.1
      · rw [same]
        have next := start.2 _ licensed.seq
        rw [← licensed.user, ← licensed.place] at next
        exact contiguous_insert world.store row start.1 next
    · intro seq read
      cases read
  · constructor
    · rw [(calm_tables outside op world calm).connections]
      exact start.1
    · exact number_stays outside op world start.2 allowed calm

theorem contiguous_kept (settings : Settings) (outside : Outside N) (request : Request)
    (world : World N) (contiguous : Contiguous world.store.connections) :
    Contiguous ((serve settings request).run (exec outside) world).2.store.connections := by
  have served := grant_served settings request
  rw [Schedule.Protocol.Served] at served
  rcases request_monitor_cases request with ⟨_, userSub, instanceId, monitor⟩ | monitor
  · have follows : (serve settings request).Follows (grantMonitor userSub instanceId)
        (fun _ _ => True) {} := monitor ▸ served
    have kept := Prog.leaves_follows
      (fun view world => Contiguous (World.store world).connections ∧
        ∀ seq, GrantView.seq view = some seq →
          seq = seqAfter ((World.store world).maxSeq userSub instanceId))
      follows ⟨contiguous, fun seq read => by cases read⟩
      (fun view op world => counting_kept outside userSub instanceId view op world)
    exact kept.1.1
  · have follows : (serve settings request).Follows plainMonitor (fun _ _ => True) {} :=
      monitor ▸ served
    have kept := Prog.leaves_follows
      (fun _ world => Contiguous (World.store world).connections) follows contiguous
      (fun view op world contiguous unlicensed => by
        rcases unlicensed_rows outside op world unlicensed with same | ⟨id, set, updated⟩
        · rw [same]
          exact contiguous
        · rw [updated]
          intro userSub instanceId
          rw [seqs_update]
          exact contiguous userSub instanceId)
    exact kept.1

theorem contiguous_reachable {settings : Settings} {outside : Outside N} {world : World N}
    (reached : Reachable settings outside world) : Contiguous world.store.connections := by
  apply reachable_kept (fun store => Contiguous store.connections) _ _ reached
  · exact fun _ _ => ⟨0, rfl⟩
  · intro world request contiguous
    exact contiguous_kept settings outside request world contiguous

/-! A refused grant. -/

/-- The rows as they were, should the program raise. -/
def Refuses {α : Type} (rows : List ConnectionRow) (outcome : Except PyError α) (after : World N) :
    Prop :=
  ∀ error, outcome = .error error → after.store.connections = rows

theorem refuses_asking_then (outside : Outside N) {α β : Type} {rows : List ConnectionRow}
    {body : Hub α} {rest : α → Hub β} {world : World N} (asking : body.Only Asking)
    (start : world.store.connections = rows)
    (refuses : ∀ value (after : World N), after.store.connections = rows →
      Leaves (exec outside) (rest value) after (Refuses rows)) :
    Leaves (exec outside) (body.bind rest) world (Refuses rows) := by
  apply leaves_asking_then asking
  · intro error after same _ _
    rw [same]
    exact start
  · intro value after _ same
    apply refuses value after
    rw [same]
    exact start

/-- With a reliable store nothing after the insertion raises. -/
theorem refuses_insert_then {outside : Outside N} (reliable : outside.Reliable) {α : Type}
    {rows : List ConnectionRow} {row : ConnectionRow} {rest : Unit → Hub α} (world : World N)
    (logs : (rest ()).Straight Logging False) :
    Leaves (exec outside) ((command (.insertConnection row)).bind rest) world (Refuses rows) := by
  rw [Prog.leaves_bind, command, Prog.leaves_perform,
    (exec_reliable reliable (.insertConnection row) world).1]
  have succeeds : Leaves (exec outside) (rest ())
      (exec outside (.store (.insertConnection row)) world).2 fun outcome _ =>
        ∃ value, outcome = .ok value :=
    Prog.straight_succeeds logs (logging_succeeds reliable)
  apply leaves_mono succeeds
  rintro outcome after ⟨value, rfl⟩
  exact nofun

theorem refuses_drop {outside : Outside N} {α : Type} {rows : List ConnectionRow} {body : Hub α}
    {world : World N} (refuses : Leaves (exec outside) body world (Refuses rows)) :
    Leaves (exec outside) (Prog.drop body) world (Refuses rows) := by
  rw [Prog.drop, Prog.leaves_bind]
  apply leaves_mono refuses
  intro outcome after refused
  cases outcome with
  | ok value => rintro _ ⟨⟩
  | error error => exact fun _ _ => refused error rfl

theorem refused_unchanged (settings : Settings) {outside : Outside N} (reliable : outside.Reliable)
    (request : Request) (grants : request.grants = true) (world : World N) :
    Leaves (exec outside) (serve settings request) world (Refuses world.store.connections) := by
  have clock : now.Only Asking := Prog.only_perform (asking_of_quick .clock rfl)
  cases request with
  | grant user instanceId privacyClass externalSubject displayLabel requestId =>
      apply refuses_drop
      apply refuses_asking_then outside (asking_gates user instanceId) rfl
      intro place world same
      apply refuses_asking_then outside (asking_unconnected ..) same
      intro _ world same
      apply refuses_asking_then outside (asking_seq user.sub instanceId) same
      intro seq world same
      apply refuses_asking_then outside clock same
      intro instant world _
      exact refuses_insert_then reliable world
        (Prog.straight_bind (logging_record_consent ..) fun _ => trivial)
  | completeGrant user instanceId code state requestId =>
      apply refuses_drop
      apply refuses_asking_then outside (asking_authorize ..) rfl
      intro granted world same
      apply refuses_asking_then outside (asking_unconnected ..) same
      intro _ world same
      apply refuses_asking_then outside (asking_seq user.sub instanceId) same
      intro seq world same
      apply refuses_asking_then outside clock same
      intro instant world same
      apply refuses_asking_then outside
        (Prog.only_of_straight (quick_encrypt ..) asking_of_quick) same
      intro encrypted world _
      exact refuses_insert_then reliable world
        (Prog.straight_bind (logging_record_consent ..) fun _ => trivial)
  | _ => cases grants

/-- In every reachable world the numbers of a pair are 0, 1, ..., n-1 in the
order of insertion, and a grant that is refused leaves the rows as they are. -/
theorem numbers_contiguous (settings : Settings) (outside : Outside N) (world : World N)
    (reached : Reachable settings outside world) :
    (∀ userSub instanceId, seqs world.store.connections userSub instanceId =
      List.range (seqs world.store.connections userSub instanceId).length) ∧
    ∀ request : Request, outside.Reliable → request.grants = true →
      ∀ error, ((serve settings request).run (exec outside) world).1 = .error error →
        ((serve settings request).run (exec outside) world).2.store.connections =
          world.store.connections := by
  constructor
  · intro userSub instanceId
    obtain ⟨count, counted⟩ := contiguous_reachable reached userSub instanceId
    rw [counted, List.length_range]
  · intro request reliable grants error raised
    exact refused_unchanged settings reliable request grants world error raised

/-! A user who grants, revokes and grants again, beside the one whose ids collide. -/

def againRequests : List Request :=
  collidingRequests ++ [.revoke sampleUser "mail:eu" none none,
    .grant sampleUser "mail:eu" defaultPrivacyClass "" "" none]

def againWorld : World Unit :=
  serveAll sampleSettings (Outside.still unreachable) ⟨Store.empty, ()⟩ againRequests

theorem granted_again_contiguous :
    (seqs againWorld.store.connections "u1" "mail:eu" = [0, 1] ∧
      seqs againWorld.store.connections "u1:mail" "eu" = [0]) ∧
    (∀ userSub instanceId, seqs againWorld.store.connections userSub instanceId =
      List.range (seqs againWorld.store.connections userSub instanceId).length) ∧
    ∀ request : Request, (Outside.still unreachable).Reliable → request.grants = true →
      ∀ error, ((serve sampleSettings request).run (exec (Outside.still unreachable))
        againWorld).1 = .error error →
        ((serve sampleSettings request).run (exec (Outside.still unreachable))
          againWorld).2.store.connections = againWorld.store.connections :=
  ⟨by decide +kernel, numbers_contiguous sampleSettings (Outside.still unreachable) againWorld
    (reachable_serve_all _ (.empty ()))⟩

end Lehen.Numbering
