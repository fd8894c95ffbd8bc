import Lehen.ConnectionIds
import Lehen.Refreshing
import Lehen.Replying

/-!
Connections that have ended. None of the statements that touch a row brings it
back to a status a token is served from, so a call that starts later reads the
row and gives up.
-/

namespace Lehen.Ending

open Storage OAuth AuditService ConnectionsService Footprint ConnectionIds Refreshing Replying Schedule

variable {N : Type} {settings : Settings}

/-- Disconnected or stale. -/
@[reducible] def Ended (row : ConnectionRow) : Prop := row.status = .disconnected ∨ row.status = .stale

def Gone (store : Store) (id : String) : Prop :=
  ∃ row ∈ store.connections, row.id = id ∧ Ended row

theorem ended_apply (set : ConnectionSet) (row : ConnectionRow) (ended : Ended row) :
    Ended (set.apply row) := by
  cases set with
  | disconnect ts => exact .inl rfl
  | withdraw ts reason => exact .inl rfl
  | credentials envelope => exact ended
  | stale => exact .inr rfl

theorem gone_update {store : Store} {id : String} (target : String) (set : ConnectionSet)
    (gone : Gone store id) :
    Gone { store with connections := setWhereId target set store.connections } id := by
  obtain ⟨row, member, named, ended⟩ := gone
  refine ⟨_, List.mem_map_of_mem member, ?_⟩
  by_cases hit : row.id = target
  · rw [if_pos hit]
    have kept : (set.apply row).id = row.id := by cases set <;> rfl
    exact ⟨kept.trans named, ended_apply set row ended⟩
  · rw [if_neg hit]
    exact ⟨named, ended⟩

/-- No operation brings an ended row back. -/
theorem gone_kept (outside : Outside N) (op : Op) (world : World N) {id : String}
    (gone : Gone world.store id) : Gone (exec outside op world).2.store id := by
  cases op with
  | store statement =>
      rcases exec_moves outside statement world with same | same
      · rw [same]
        exact gone
      · rw [same]
        cases statement with
        | insertConnection row =>
            obtain ⟨old, member, facts⟩ := gone
            exact ⟨old, List.mem_append_left _ member, facts⟩
        | updateConnections target set => exact gone_update target set gone
        | _ => exact gone
  | _ =>
      rw [exec_elsewhere outside _ world (fun statement same => by cases same)]
      exact gone

/-- Where ids are distinct, a read by the id of an ended row finds nothing to use. -/
theorem gone_unusable {store : Store} {id : String} (gone : Gone store id)
    (distinct : DistinctIds store.connections) :
    usableRow (store.connections.filter (ConnectionWhere.withId id).holds) = none := by
  obtain ⟨row, member, rfl, ended⟩ := gone
  rw [own_target_of_distinct distinct row member]
  have unusable : usableCredentials row = none := by
    unfold usableCredentials
    rcases ended with status | status <;> simp [status]
  simp [usableRow, unusable]

/-- A call that has not begun, or has read the row and returned `None`, or whose
only statement failed. -/
inductive Fruitless (settings : Settings) (id : String) (task : ReplyTask) : Prop
  | fresh (log : task.log = []) (prog : task.prog = reply settings task.request)
  | empty (rows : List ConnectionRow)
      (log : task.log = [⟨.store (.selectConnections (.withId id)), .ok rows⟩])
      (prog : task.prog = .ret (.token none))
  | failed (error : PyError)
      (log : task.log = [⟨.store (.selectConnections (.withId id)), .error error⟩])
      (prog : task.prog = .raise error)

/-- The tasks from a number on that call for a token of the id. -/
def LaterFruitless (settings : Settings) (first : Nat) (id : String) (pool : ReplyPool N) : Prop :=
  ∀ (i : Nat) (task : ReplyTask) (skew : Int) (nowTs : Option Int), first ≤ i →
    pool.tasks[i]? = some task → task.request = .getValidAccessToken id skew nowTs →
    Fruitless settings id task

theorem reply_reads (settings : Settings) (id : String) (skew : Int) (nowTs : Option Int) :
    ∃ resume : Except PyError (List ConnectionRow) → Hub Replying.Reply,
      reply settings (.getValidAccessToken id skew nowTs) =
          .await (.store (.selectConnections (.withId id))) resume ∧
        (∀ error, resume (.error error) = .raise error) ∧
        ∀ rows, usableRow rows = none → resume (.ok rows) = .ret (.token none) := by
  refine ⟨_, rfl, fun error => rfl, ?_⟩
  intro rows unusable
  simp only [Prog.pure_eq, Prog.bind_ret, unusable]

theorem fruitless_perform {outside : Outside N} {pool : ReplyPool N} {task : ReplyTask} {op : Op}
    {resume : Except PyError op.Res → Hub Replying.Reply} {id : String} {skew : Int} {nowTs : Option Int}
    (distinct : DistinctIds pool.state.store.connections) (gone : Gone pool.state.store id)
    (left : task.prog = .await op resume) (call : task.request = .getValidAccessToken id skew nowTs)
    (fruitless : Fruitless settings id task) :
    Fruitless settings id
      ⟨task.request, task.log ++ [⟨op, (exec outside op pool.state).1⟩],
        resume (exec outside op pool.state).1⟩ := by
  cases fruitless with
  | fresh log prog =>
      obtain ⟨reads, begins, raises, gives⟩ := reply_reads settings id skew nowTs
      rw [call, begins, left] at prog
      obtain ⟨rfl, same⟩ := Prog.await.inj prog
      obtain rfl := eq_of_heq same
      rw [log]
      rcases exec_read outside (.selectConnections (.withId id)) pool.state rfl with
        ⟨error, answer, _⟩ | ⟨answer, _⟩
      · rw [answer]
        exact .failed error rfl (raises error)
      · rw [answer]
        exact .empty _ rfl (gives _ (gone_unusable gone distinct))
  | empty rows log prog =>
      rw [left] at prog
      cases prog
  | failed error log prog =>
      rw [left] at prog
      cases prog

/-- What the rest of a run keeps: the row stays gone, and later calls stay fruitless. -/
def Over (settings : Settings) (first : Nat) (id : String) (pool : ReplyPool N) : Prop :=
  Gone pool.state.store id ∧ LaterFruitless settings first id pool

theorem over_perform {outside : Outside N} {first : Nat} {id : String} {pool : ReplyPool N} {i : Nat}
    {task : ReplyTask} {op : Op} {resume : Except PyError op.Res → Hub Replying.Reply}
    (finished : Over settings first id pool) (found : pool.tasks[i]? = some task)
    (left : task.prog = .await op resume)
    (reads : (∃ skew nowTs, first ≤ i ∧ task.request = .getValidAccessToken id skew nowTs) →
      DistinctIds pool.state.store.connections) :
    Over settings first id (pool.perform (exec outside) i task op resume) := by
  constructor
  · exact gone_kept outside op pool.state finished.1
  · intro j other skew nowTs later after call
    rcases get_perform found after with ⟨rfl, rfl⟩ | ⟨_, before⟩
    · exact fruitless_perform (reads ⟨skew, nowTs, later, call⟩) finished.1 left call
        (finished.2 j task skew nowTs later found call)
    · exact finished.2 j other skew nowTs later before call

/-- A later call never waits for an instant operation. -/
theorem fruitless_not_instant {id : String} {task : ReplyTask} {op : Op}
    {resume : Except PyError op.Res → Hub Replying.Reply} {skew : Int} {nowTs : Option Int}
    (fruitless : Fruitless settings id task) (left : task.prog = .await op resume)
    (call : task.request = .getValidAccessToken id skew nowTs) : ¬ instant op := by
  cases fruitless with
  | fresh log prog =>
      obtain ⟨reads, begins, _⟩ := reply_reads settings id skew nowTs
      rw [call, begins, left] at prog
      obtain ⟨rfl, _⟩ := Prog.await.inj prog
      exact Bool.false_ne_true
  | empty rows log prog =>
      rw [left] at prog
      cases prog
  | failed error log prog =>
      rw [left] at prog
      cases prog

theorem over_step (settings : Settings) (outside : Outside N) (first : Nat) (id : String)
    (pool : ReplyPool N) (event : Event Request) (finished : Over settings first id pool)
    (distinct : DistinctIds pool.state.store.connections) :
    Over settings first id (pool.step (exec outside) instant (reply settings) event) := by
  cases event with
  | start request =>
      constructor
      · exact finished.1
      · intro i task skew nowTs later found call
        rcases get_start found with before | rfl
        · exact finished.2 i task skew nowTs later before call
        · exact .fresh rfl rfl
  | resume i =>
      apply turn_kept (Over settings first id)
      · exact finished
      · intro task op resume found left
        exact over_perform finished found left fun _ => distinct
      · intro pool task op resume found left quick finished
        apply over_perform finished found left
        rintro ⟨skew, nowTs, later, call⟩
        exact absurd quick (fruitless_not_instant (finished.2 i task skew nowTs later found call) left call)

/-- Distinct ids before every event of a run. -/
@[reducible] def IdsApart (pool : ReplyPool N) (_ : Event Request) : Prop :=
  DistinctIds pool.state.store.connections

/-- Once a row is disconnected or stale, every call for its id that starts later
reads the row and returns `None`, and sends nothing. -/
theorem no_token_after_end (settings : Settings) (outside : Outside N) (world : World N)
    (before after : List (Event Request)) (row : ConnectionRow)
    (distinct : Disciplined (exec outside) instant (reply settings) IdsApart ⟨world, []⟩
      (before ++ after))
    (member : row ∈ ((⟨world, []⟩ : ReplyPool N).play (exec outside) instant (reply settings)
      before).state.store.connections)
    (ended : Ended row) :
    LaterFruitless settings
      ((⟨world, []⟩ : ReplyPool N).play (exec outside) instant (reply settings) before).tasks.length
      row.id
      ((⟨world, []⟩ : ReplyPool N).play (exec outside) instant (reply settings) (before ++ after)) := by
  rw [play_append]
  refine (play_kept (Over settings _ row.id) _ after
    ((disciplined_append _ before after).mp distinct).2 ⟨⟨row, member, rfl, ended⟩, ?_⟩ ?_).2
  · intro i task skew nowTs later found _
    have bound := (List.getElem?_eq_some_iff.mp found).1
    omega
  · intro pool event finished apart
    exact over_step settings outside _ row.id pool event finished apart

/-! The user revokes, and then a call asks for the token. -/

def heldRow : ConnectionRow := { sampleConnection with encryptedCredentials := some "sealed" }

def heldStore : Store := { sampleStore with connections := [heldRow] }

def revokedRow : ConnectionRow :=
  { heldRow with status := .disconnected, disconnectedAt := some 0 }

def revokeAlone : List (Event Request) :=
  [.start (.revoke sampleUser "mail" none none), .resume 0, .resume 0, .resume 0]

def callAfter : List (Event Request) := [.start sampleCall, .resume 1]

theorem no_token_after_revoke :
    LaterFruitless sampleSettings
      ((⟨⟨heldStore, ()⟩, []⟩ : ReplyPool Unit).play (exec (Outside.still unreachable)) instant
        (reply sampleSettings) revokeAlone).tasks.length
      revokedRow.id
      ((⟨⟨heldStore, ()⟩, []⟩ : ReplyPool Unit).play (exec (Outside.still unreachable)) instant
        (reply sampleSettings) (revokeAlone ++ callAfter)) := by
  apply no_token_after_end
  · have sound (pool : ReplyPool Unit) (event : Event Request)
        (checked : decide (pool.state.store.connections.map ConnectionRow.id).Nodup = true) :
        IdsApart pool event := by
      have distinct := of_decide_eq_true checked
      exact distinct
    refine disciplined_of_along _ _ ?_ sound
    decide +kernel
  · have rows : ((⟨⟨heldStore, ()⟩, []⟩ : ReplyPool Unit).play (exec (Outside.still unreachable))
        instant (reply sampleSettings) revokeAlone).state.store.connections = [revokedRow] := by
      decide +kernel
    rw [rows]
    exact List.mem_singleton_self _
  · exact .inl rfl

end Lehen.Ending
