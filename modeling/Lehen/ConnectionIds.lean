import Lehen.Granting

/-!
Ids of connection rows. A row is named by user, instance and a sequence number
that grows per (user, instance); updates find their row by that name alone.
-/

namespace Lehen.ConnectionIds

open Storage OAuth AuditService ConnectionsService Footprint Granting
open Schedule (Protocol)

variable {N : Type}

/-- The pair a sequence number counts for. -/
def SamePair (left right : ConnectionRow) : Prop :=
  left.userSub = right.userSub ∧ left.integrationInstanceId = right.integrationInstanceId

/-- Rows carry the id their columns spell, their pair counts them apart, and
counting began at zero. -/
structure Numbered (rows : List ConnectionRow) : Prop where
  named : ∀ row ∈ rows,
    row.id = connectionId row.userSub row.integrationInstanceId row.connectionSeq
  apart : rows.Pairwise fun left right =>
    SamePair left right → left.connectionSeq ≠ right.connectionSeq
  origin : ∀ row ∈ rows, ∃ first ∈ rows, SamePair first row ∧ first.connectionSeq = 0

/-- The name without the number. -/
def pairText (row : ConnectionRow) : String :=
  row.userSub ++ ":" ++ row.integrationInstanceId

/-- No two different (user, instance) pairs of the table spell the same text. -/
def Unambiguous (rows : List ConnectionRow) : Prop :=
  ∀ left ∈ rows, ∀ right ∈ rows, pairText left = pairText right → SamePair left right

def DistinctIds (rows : List ConnectionRow) : Prop := (rows.map ConnectionRow.id).Nodup

/-- `WHERE id = :id` with the id of a row matches this row and nothing else. -/
def OwnTarget (rows : List ConnectionRow) : Prop :=
  ∀ row ∈ rows, rows.filter (ConnectionWhere.withId row.id).holds = [row]

/-! The text of an id determines the text of its pair and its number. -/

theorem split_at_last {α : Type} {mark : α} {left left' right right' : List α}
    (absent : mark ∉ right) (absent' : mark ∉ right')
    (same : left ++ mark :: right = left' ++ mark :: right') : left = left' ∧ right = right' := by
  rcases List.append_eq_append_iff.mp same with ⟨middle, longer, rest⟩ | ⟨middle, longer, rest⟩
  · cases middle with
    | nil => exact ⟨by rw [longer, List.append_nil], (List.cons.inj rest).2⟩
    | cons head tail =>
        rw [(List.cons.inj rest).2] at absent
        exact absurd (List.mem_append_right _ List.mem_cons_self) absent
  · cases middle with
    | nil => exact ⟨by rw [longer, List.append_nil], (List.cons.inj rest).2.symm⟩
    | cons head tail =>
        rw [(List.cons.inj rest).2] at absent'
        exact absurd (List.mem_append_right _ List.mem_cons_self) absent'

theorem colon_not_in_digits (n : Nat) : ':' ∉ Nat.toDigits 10 n := by
  intro member
  have digit := Nat.isDigit_of_mem_toDigits (by decide) (by decide) member
  revert digit
  decide

theorem connection_id_text (row : ConnectionRow) :
    (connectionId row.userSub row.integrationInstanceId row.connectionSeq).toList =
      (pairText row).toList ++ ':' :: Nat.toDigits 10 row.connectionSeq := by
  simp only [connectionId, pairText, toString, String.toList_append, Nat.toList_repr,
    List.append_assoc]
  rfl

theorem same_id_iff (left right : ConnectionRow) :
    connectionId left.userSub left.integrationInstanceId left.connectionSeq =
        connectionId right.userSub right.integrationInstanceId right.connectionSeq ↔
      pairText left = pairText right ∧ left.connectionSeq = right.connectionSeq := by
  rw [← String.toList_inj, connection_id_text, connection_id_text]
  constructor
  · intro same
    obtain ⟨pair, digits⟩ :=
      split_at_last (colon_not_in_digits _) (colon_not_in_digits _) same
    have numbers := congrArg (fun ds => Nat.ofDigitChars 10 ds 0) digits
    simp only [Nat.ofDigitChars_ten_toDigits] at numbers
    exact ⟨String.toList_inj.mp pair, numbers⟩
  · rintro ⟨pair, number⟩
    rw [pair, number]

/-! What updates and inserts keep. -/

theorem numbered_map (rows : List ConnectionRow) (change : ConnectionRow → ConnectionRow)
    (id : ∀ row, (change row).id = row.id) (user : ∀ row, (change row).userSub = row.userSub)
    (place : ∀ row, (change row).integrationInstanceId = row.integrationInstanceId)
    (seq : ∀ row, (change row).connectionSeq = row.connectionSeq) (numbered : Numbered rows) :
    Numbered (rows.map change) := by
  constructor
  · intro changed member
    obtain ⟨row, earlier, rfl⟩ := List.mem_map.mp member
    rw [id, user, place, seq]
    exact numbered.named row earlier
  · apply List.pairwise_map.mpr
    apply numbered.apart.imp
    intro left right apart pair
    rw [SamePair, user, user, place, place] at pair
    rw [seq, seq]
    exact apart pair
  · intro changed member
    obtain ⟨row, earlier, rfl⟩ := List.mem_map.mp member
    obtain ⟨first, before, pair, zero⟩ := numbered.origin row earlier
    refine ⟨change first, List.mem_map_of_mem before, ?_, ?_⟩
    · rw [SamePair, user, user, place, place]
      exact pair
    · rw [seq]
      exact zero

theorem numbered_update (rows : List ConnectionRow) (id : String) (set : ConnectionSet)
    (numbered : Numbered rows) : Numbered (setWhereId id set rows) := by
  apply numbered_map rows _ ?_ ?_ ?_ ?_ numbered <;>
  · intro row
    split
    · cases set <;> rfl
    · rfl

theorem number_in_use (store : Store) (row : ConnectionRow) (member : row ∈ store.connections) :
    row.connectionSeq < seqAfter (store.maxSeq row.userSub row.integrationInstanceId) := by
  have counted : row.connectionSeq ∈ (store.connections.filter fun other =>
      other.userSub = row.userSub &&
        other.integrationInstanceId = row.integrationInstanceId).map
          ConnectionRow.connectionSeq := by
    apply List.mem_map_of_mem
    apply List.mem_filter.mpr
    exact ⟨member, by simp only [decide_true, Bool.and_self]⟩
  unfold Store.maxSeq
  cases top : ((store.connections.filter fun other => other.userSub = row.userSub &&
      other.integrationInstanceId = row.integrationInstanceId).map
        ConnectionRow.connectionSeq).max? with
  | none =>
      rw [List.max?_eq_none_iff.mp top] at counted
      cases counted
  | some highest => exact Nat.lt_succ_of_le ((List.max?_eq_some_iff.mp top).2 _ counted)

theorem first_number (store : Store) (userSub instanceId : String)
    (absent : ∀ row ∈ store.connections,
      ¬ (row.userSub = userSub ∧ row.integrationInstanceId = instanceId)) :
    seqAfter (store.maxSeq userSub instanceId) = 0 := by
  have none : (store.connections.filter fun row =>
      row.userSub = userSub && row.integrationInstanceId = instanceId) = [] := by
    apply List.filter_eq_nil_iff.mpr
    intro row member
    simpa only [Bool.and_eq_true, decide_eq_true_eq] using absent row member
  rw [Store.maxSeq, none]
  rfl

theorem numbered_insert (store : Store) (row : ConnectionRow)
    (numbered : Numbered store.connections)
    (named : row.id = connectionId row.userSub row.integrationInstanceId row.connectionSeq)
    (next : row.connectionSeq = seqAfter (store.maxSeq row.userSub row.integrationInstanceId)) :
    Numbered (store.connections ++ [row]) := by
  constructor
  · intro other member
    rcases List.mem_append.mp member with earlier | new
    · exact numbered.named other earlier
    · rw [List.mem_singleton.mp new]
      exact named
  · apply List.pairwise_append.mpr
    refine ⟨numbered.apart, List.pairwise_singleton _ _, ?_⟩
    intro left earlier right new pair same
    rw [List.mem_singleton.mp new] at pair same
    have below := number_in_use store left earlier
    rw [pair.1, pair.2, ← next, same] at below
    exact lt_irrefl _ below
  · intro other member
    rcases List.mem_append.mp member with earlier | new
    · obtain ⟨first, before, rest⟩ := numbered.origin other earlier
      exact ⟨first, List.mem_append_left _ before, rest⟩
    · rw [List.mem_singleton.mp new]
      by_cases known : ∃ old ∈ store.connections, SamePair old row
      · obtain ⟨old, before, pair⟩ := known
        obtain ⟨first, earliest, samePair, zero⟩ := numbered.origin old before
        exact ⟨first, List.mem_append_left _ earliest,
          ⟨samePair.1.trans pair.1, samePair.2.trans pair.2⟩, zero⟩
      · refine ⟨row, List.mem_append_right _ List.mem_cons_self, ⟨rfl, rfl⟩, ?_⟩
        rw [next]
        apply first_number
        intro old before pair
        exact known ⟨old, before, pair⟩

/-! Over a request, and over every sequence of completed requests. -/

/-- The store is numbered, and the number a grant read is still the next one. -/
def InStep (userSub instanceId : String) (view : GrantView) (world : World N) : Prop :=
  Numbered world.store.connections ∧
    ∀ seq, view.seq = some seq → seq = seqAfter (world.store.maxSeq userSub instanceId)

/-- While no row is written, the number a grant read is still the next one. -/
theorem number_stays (outside : Outside N) {userSub instanceId : String} {view : GrantView} (op : Op)
    (world : World N)
    (current : ∀ seq, view.seq = some seq → seq = seqAfter (world.store.maxSeq userSub instanceId))
    (allowed : (grantMonitor userSub instanceId).allowed view op) (calm : Calm op) :
    ∀ seq, ((grantMonitor userSub instanceId).next view op (exec outside op world).1).seq = some seq →
      seq = seqAfter ((exec outside op world).2.store.maxSeq userSub instanceId) := by
  have tables := calm_tables outside op world calm
  have counts : (exec outside op world).2.store.maxSeq userSub instanceId =
      world.store.maxSeq userSub instanceId := by
    simp only [Store.maxSeq, tables.connections]
  intro seq read
  rw [counts]
  cases op with
  | store statement =>
      cases statement with
      | selectMaxSeq user place =>
          obtain ⟨rfl, rfl⟩ := allowed
          rcases exec_read outside (.selectMaxSeq user place) world rfl with
            ⟨error, answer, _⟩ | ⟨answer, _⟩
          · rw [answer] at read
            exact current seq read
          · rw [answer] at read
            exact (Option.some.inj read).symm
      | selectConnections rows =>
          apply current seq
          rw [← read]
          cases rows with
          | ofMailbox userSub instanceId externalSubject =>
              rcases (exec outside _ world).1 with error | (_ | ⟨row, rest⟩) <;> rfl
          | _ => cases (exec outside _ world).1 <;> rfl
      | _ =>
          first
          | exact calm.elim
          | exact current seq (by rw [← read]; cases (exec outside _ world).1 <;> rfl)
  | _ => exact current seq (by rw [← read]; cases (exec outside _ world).1 <;> rfl)

theorem in_step_kept (outside : Outside N) (userSub instanceId : String) (view : GrantView) (op : Op)
    (world : World N) (inStep : InStep userSub instanceId view world)
    (allowed : (grantMonitor userSub instanceId).allowed view op) :
    InStep userSub instanceId
      ((grantMonitor userSub instanceId).next view op (exec outside op world).1)
      (exec outside op world).2 := by
  rcases allowed_cases allowed with ⟨row, rfl, licensed⟩ | calm
  · constructor
    · rcases exec_moves outside (.insertConnection row) world with same | same
      · rw [same]
        exact inStep.1
      · rw [same]
        have next := inStep.2 _ licensed.seq
        have named := licensed.id
        rw [← licensed.user, ← licensed.place] at next named
        exact numbered_insert world.store row inStep.1 named next
    · intro seq read
      cases read
  · have tables := calm_tables outside op world calm
    exact ⟨by rw [tables.connections]; exact inStep.1,
      number_stays outside op world inStep.2 allowed calm⟩

theorem numbered_kept (settings : Settings) (outside : Outside N) (request : Request)
    (world : World N) (numbered : Numbered world.store.connections) :
    Numbered ((serve settings request).run (exec outside) world).2.store.connections := by
  have served := grant_served settings request
  rw [Protocol.Served] at served
  rcases request_monitor_cases request with ⟨_, userSub, instanceId, monitor⟩ | monitor
  · have follows : (serve settings request).Follows (grantMonitor userSub instanceId)
        (fun _ _ => True) {} := monitor ▸ served
    obtain ⟨inStep, _⟩ := Prog.leaves_follows (InStep userSub instanceId) follows
      ⟨numbered, fun seq read => by cases read⟩
      (fun view op world => in_step_kept outside userSub instanceId view op world)
    exact inStep.1
  · have follows : (serve settings request).Follows plainMonitor (fun _ _ => True) {} :=
      monitor ▸ served
    obtain ⟨kept, _⟩ := Prog.leaves_follows
      (fun _ world => Numbered (World.store world).connections) follows numbered
      (fun view op world numbered unlicensed => by
        rcases unlicensed_rows outside op world unlicensed with same | ⟨id, set, updated⟩
        · rw [same]
          exact numbered
        · rw [updated]
          exact numbered_update _ id set numbered)
    exact kept

theorem numbered_reachable {settings : Settings} {outside : Outside N} {world : World N}
    (reached : Reachable settings outside world) : Numbered world.store.connections := by
  apply reachable_kept (fun store => Numbered store.connections) _ _ reached
  · exact ⟨fun _ none => (List.not_mem_nil none).elim, List.Pairwise.nil,
      fun _ none => (List.not_mem_nil none).elim⟩
  · intro world request numbered
    exact numbered_kept settings outside request world numbered

/-! When the ids are distinct. -/

theorem own_target_of_distinct {rows : List ConnectionRow} (distinct : DistinctIds rows) :
    OwnTarget rows := by
  intro row member
  have nodup : (rows.filter (ConnectionWhere.withId row.id).holds).Nodup :=
    (List.Nodup.of_map _ distinct).filter _
  apply List.perm_singleton.mp
  apply (List.perm_ext_iff_of_nodup nodup (List.nodup_singleton row)).mpr
  intro other
  rw [List.mem_filter, List.mem_singleton]
  constructor
  · rintro ⟨earlier, matching⟩
    exact List.inj_on_of_nodup_map distinct earlier member (of_decide_eq_true matching)
  · rintro rfl
    exact ⟨member, decide_eq_true rfl⟩

theorem distinct_of_unambiguous {rows : List ConnectionRow} (numbered : Numbered rows)
    (unambiguous : Unambiguous rows) : DistinctIds rows := by
  apply List.pairwise_map.mpr
  apply numbered.apart.imp_of_mem
  intro left right before after apart same
  rw [numbered.named left before, numbered.named right after, same_id_iff] at same
  exact apart (unambiguous left before right after same.1) same.2

theorem unambiguous_of_distinct {rows : List ConnectionRow} (numbered : Numbered rows)
    (distinct : DistinctIds rows) : Unambiguous rows := by
  intro left before right after spelled
  -- The first row of each pair has number zero, so equal texts give equal ids.
  obtain ⟨first, earlier, pair, zero⟩ := numbered.origin left before
  obtain ⟨first', earlier', pair', zero'⟩ := numbered.origin right after
  have same : first.id = first'.id := by
    rw [numbered.named first earlier, numbered.named first' earlier', same_id_iff]
    refine ⟨?_, zero.trans zero'.symm⟩
    rw [pairText, pairText, pair.1, pair.2, pair'.1, pair'.2]
    exact spelled
  have one : first = first' := List.inj_on_of_nodup_map distinct earlier earlier' same
  subst one
  exact ⟨pair.1.symm.trans pair'.1, pair.2.symm.trans pair'.2⟩

/-- In every reachable world, ids are distinct and every update by the id of a
row reaches that row alone exactly if no two pairs spell the same text. -/
theorem ids_distinct_iff (settings : Settings) (outside : Outside N) (world : World N)
    (reached : Reachable settings outside world) :
    (DistinctIds world.store.connections ∧ OwnTarget world.store.connections) ↔
      Unambiguous world.store.connections := by
  have numbered := numbered_reachable reached
  constructor
  · intro separate
    exact unambiguous_of_distinct numbered separate.1
  · intro unambiguous
    have distinct := distinct_of_unambiguous numbered unambiguous
    exact ⟨distinct, own_target_of_distinct distinct⟩

/-! Two users whose subjects and instances spell the same text. -/

def otherUser : CurrentUser := { sampleUser with sub := "u1:mail", username := "bob" }

def collidingRequests : List Request :=
  [.createInstance sampleUser "mail:eu" "outlook-edge-com" "EU" ∅ false true none,
    .createInstance sampleUser "eu" "outlook-edge-com" "EU" ∅ false true none,
    .replaceMapping sampleUser (.obj [("staff", .arr [.str "mail:eu", .str "eu"])]) none,
    .grant sampleUser "mail:eu" defaultPrivacyClass "" "" none,
    .grant otherUser "eu" defaultPrivacyClass "" "" none]

def collidedWorld : World Unit :=
  serveAll sampleSettings (Outside.still unreachable) ⟨Store.empty, ()⟩ collidingRequests

/-- Both rows are called `u1:mail:eu:0`, and when the first user revokes, the
update by that id disconnects the row of the other user too. -/
theorem ids_collide :
    Reachable sampleSettings (Outside.still unreachable) collidedWorld ∧
    ¬ DistinctIds collidedWorld.store.connections ∧
    (serveAll sampleSettings (Outside.still unreachable) collidedWorld
      [.revoke sampleUser "mail:eu" none none]).store.connections.map
        (fun row => (row.userSub, row.id, row.isActive)) =
      [("u1", "u1:mail:eu:0", false), ("u1:mail", "u1:mail:eu:0", false)] := by
  refine ⟨reachable_serve_all _ (.empty ()), ?_, ?_⟩
  · unfold DistinctIds
    decide +kernel
  · decide +kernel

theorem ids_distinct_iff_collided :
    (DistinctIds collidedWorld.store.connections ∧ OwnTarget collidedWorld.store.connections) ↔
      Unambiguous collidedWorld.store.connections :=
  ids_distinct_iff sampleSettings (Outside.still unreachable) collidedWorld
    (reachable_serve_all _ (.empty ()))

end Lehen.ConnectionIds
