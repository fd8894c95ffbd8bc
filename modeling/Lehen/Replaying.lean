import Lehen.Binding

/-!
A state that is presented more than once. Nothing remembers a nonce, so what
keeps a state to one connection is the client that does not present it again.
-/

namespace Lehen.Replaying

open Storage OAuth AuditService ConnectionsService Footprint Replying Schedule
open Prog (Monitor only_bind only_perform only_mono only_of_straight)

variable {N : Type} {settings : Settings}

def presents (state : String) (task : ReplyTask) : Bool :=
  match task.request with
  | .completeGrant _ _ _ presented _ => presented == state
  | _ => false

/-- The call waits for its insert of a connection row, and the store will execute it,
whether the call gets its answer or not. -/
def aboutToInsert (outside : Outside N) (world : World N) (task : ReplyTask) : Bool :=
  match task.prog with
  | .await (.store (.insertConnection row)) _ =>
      decide (outside.fate (.insertConnection row) world.outside ≠ .refused)
  | _ => false

/-- The connection rows that a turn inserts for a state. -/
def insertsNow (outside : Outside N) (state : String) (pool : ReplyPool N) : Event Request → Nat
  | .start _ => 0
  | .resume i =>
      if pool.tasks[i]?.any fun task => presents state task && aboutToInsert outside pool.state task
      then 1 else 0

section Runs

variable (settings : Settings) (outside : Outside N)

/-- The connection rows that the calls presenting a state insert along a run. -/
def insertions (state : String) : ReplyPool N → List (Event Request) → Nat
  | _, [] => 0
  | pool, event :: rest =>
      insertsNow outside state pool event +
        insertions state (pool.step (exec outside) instant (reply settings) event) rest

/-- No other call that presents the state is under way, and none has inserted a row;
`spent` counts the rows so far. -/
def Fresh (spent : String → Nat) (pool : ReplyPool N) : Event Request → Prop
  | .start (.completeGrant _ _ _ state _) =>
      spent state = 0 ∧ ∀ task ∈ pool.tasks, presents state task = true → ¬ task.running
  | _ => True

/-- Along the run every state is presented only while it is fresh. -/
def Unused : (String → Nat) → ReplyPool N → List (Event Request) → Prop
  | _, _, [] => True
  | spent, pool, event :: rest =>
      Fresh spent pool event ∧
        Unused (fun state => spent state + insertsNow outside state pool event)
          (pool.step (exec outside) instant (reply settings) event) rest

end Runs

section Appending

variable {outside : Outside N}

theorem insertions_append (state : String) (pool : ReplyPool N) (first second : List (Event Request)) :
    insertions settings outside state pool (first ++ second) =
      insertions settings outside state pool first +
        insertions settings outside state (pool.play (exec outside) instant (reply settings) first)
          second := by
  induction first generalizing pool with
  | nil => exact (Nat.zero_add _).symm
  | cons event rest ih =>
      rw [List.cons_append, insertions, insertions, ih, Nat.add_assoc]
      rfl

theorem unused_append (spent : String → Nat) (pool : ReplyPool N) (first second : List (Event Request)) :
    Unused settings outside spent pool (first ++ second) ↔
      Unused settings outside spent pool first ∧
        Unused settings outside (fun state => spent state + insertions settings outside state pool first)
          (pool.play (exec outside) instant (reply settings) first) second := by
  induction first generalizing spent pool with
  | nil => exact ⟨fun later => ⟨trivial, later⟩, And.right⟩
  | cons event rest ih =>
      simp only [List.cons_append, Unused, ih, insertions, ← Nat.add_assoc, and_assoc]
      rfl

/-- Turns alone present nothing. -/
theorem unused_turns (spent : String → Nat) (pool : ReplyPool N) (turns : List Nat) :
    Unused settings outside spent pool (turns.map .resume) := by
  induction turns generalizing spent pool with
  | nil => trivial
  | cons i rest ih => exact ⟨trivial, ih _ _⟩

end Appending

/-! One call sends one insert at most. -/

def inserts : Op → Bool
  | .store (.insertConnection _) => true
  | _ => false

/-- After an insert there is no other. -/
def onceMonitor : Monitor Op Op.Res PyError Bool :=
  { allowed := fun seen op => inserts op = true → seen = false
    next := fun seen op _ => seen || inserts op }

def onceProtocol : Protocol Request Op Op.Res PyError Replying.Reply Bool :=
  { monitor
      | .completeGrant _ _ _ _ _ => onceMonitor
      | _ => { allowed := fun _ _ => True, next := fun seen _ _ => seen }
    initial := fun _ => false
    post := fun _ _ _ => True }

theorem unnoticed (seen : Bool) (op : Op) (calm : Unlicensed op) :
    onceMonitor.allowed seen op ∧ ∀ answer, onceMonitor.next seen op answer = seen := by
  have other : inserts op = false := by
    cases op with
    | store statement =>
        cases statement with
        | insertConnection row => exact calm.elim
        | _ => rfl
    | _ => rfl
  constructor
  · intro insert
    rw [other] at insert
    cases insert
  · intro answer
    simp [onceMonitor, other]

theorem follows_unlicensed {α : Type} {body : Hub α} (unlicensed : body.Only Unlicensed) (seen : Bool) :
    body.Follows onceMonitor (fun _ after => after = seen) seen :=
  Prog.follows_only unlicensed (unnoticed seen) fun _ => rfl

theorem complete_once (user : CurrentUser) (instanceId code state : String)
    (requestId : Option String) :
    (completeGrant settings user instanceId code state requestId).Follows onceMonitor
      (fun _ _ => True) false := by
  have asks {op : Op} (asking : Asking op) : Unlicensed op :=
    unlicensed_of_updating op (updating_of_calm op (calm_of_asking op asking))
  have first {α β : Type} {body : Hub α} {rest : α → Hub β} (asking : body.Only Asking)
      (then_ : ∀ value, (rest value).Follows onceMonitor (fun _ _ => True) false) :
      (body.bind rest).Follows onceMonitor (fun _ _ => True) false := by
    apply Prog.follows_then (follows_unlicensed (only_mono asking fun _ => asks) false)
    · rintro value seen rfl
      exact then_ value
    · exact fun _ _ _ => trivial
  apply first (asking_authorize ..)
  intro granted
  apply first (asking_unconnected ..)
  intro _
  apply first (asking_seq ..)
  intro seq
  have clock : now.Only Asking := only_perform rfl
  apply first clock
  intro instant
  apply first (only_of_straight (quick_encrypt ..) asking_of_quick)
  intro encrypted
  apply Prog.follows_perform_then
  · exact fun _ => rfl
  · intro _
    apply Prog.follows_mono (follows_unlicensed ?_ true)
    · exact fun _ _ _ => trivial
    · apply only_bind (only_of_straight (logging_record_consent ..) fun op logging => ?_)
      · exact fun _ => trivial
      · exact unlicensed_of_diminishing op (diminishing_of_logging op logging)
  · exact fun _ => trivial

theorem once_served (settings : Settings) (request : Request) :
    onceProtocol.Served (reply settings) request := by
  cases request with
  | completeGrant user instanceId code state requestId =>
      have dropped : (serve settings (.completeGrant user instanceId code state requestId)).Follows
          onceMonitor (fun _ _ => True) false :=
        Prog.follows_then (complete_once user instanceId code state requestId)
          (fun _ _ _ => trivial) fun _ _ _ => trivial
      exact Prog.follows_then dropped (fun _ _ _ => trivial) fun _ _ _ => trivial
  | _ =>
      apply Prog.follows_confined (Prog.only_any _)
      · exact fun _ _ _ => trivial
      · exact fun _ _ => trivial

/-! A run in which no state is presented again once it was used. -/

/-- The calls under way with a state. -/
def Busy (state : String) (task : ReplyTask) : Prop := presents state task = true ∧ task.running

/-- What a run keeps: a state is spent once at most, one call at a time presents it,
and once it is spent that call has sent its insert. -/
structure Single (spent : String → Nat) (pool : ReplyPool N) : Prop where
  once : ∀ state, spent state ≤ 1
  sent : ∀ state, spent state ≠ 0 → ∀ task ∈ pool.tasks, Busy state task →
    task.seen onceProtocol = true
  alone : ∀ state, pool.Exclusive (Busy state)

theorem presents_iff (state : String) (task : ReplyTask) :
    presents state task = true ↔ ∃ user instanceId code requestId,
      task.request = .completeGrant user instanceId code state requestId := by
  obtain ⟨request, log, prog⟩ := task
  cases request <;> simp [presents]

theorem single_start (settings : Settings) (outside : Outside N) {spent : String → Nat}
    {pool : ReplyPool N} {request : Request} (single : Single spent pool)
    (fresh : Fresh spent pool (.start request)) :
    Single spent (pool.step (exec outside) instant (reply settings) (.start request)) := by
  have unused (state : String) (presented : presents state ⟨request, [], reply settings request⟩ = true) :
      spent state = 0 ∧ ∀ task ∈ pool.tasks, ¬ Busy state task := by
    obtain ⟨user, instanceId, code, requestId, call⟩ := (presents_iff state _).mp presented
    rw [show request = _ from call] at fresh
    exact ⟨fresh.1, fun task member busy => fresh.2 task member busy.1 busy.2⟩
  constructor
  · exact single.once
  · intro state used task member busy
    rcases List.mem_append.mp member with earlier | last
    · exact single.sent state used task earlier busy
    · rw [List.mem_singleton.mp last] at busy
      exact absurd (unused state busy.1).1 used
  · intro state
    by_cases presented : presents state ⟨request, [], reply settings request⟩ = true
    · exact exclusive_start_alone (unused state presented).2
    · exact exclusive_start (single.alone state) fun busy => presented busy.1

/-- What a call that presents a state has sent, after another operation. -/
theorem seen_after {outside : Outside N} {pool : ReplyPool N} {task : ReplyTask} {op : Op}
    {resume : Except PyError op.Res → Hub Replying.Reply} {state : String}
    (presented : presents state task = true) :
    (pool.stepped (exec outside) task op resume).seen onceProtocol =
      (task.seen onceProtocol || inserts op) := by
  obtain ⟨user, instanceId, code, requestId, call⟩ := (presents_iff state _).mp presented
  rw [seen_stepped, show task.request = _ from call]
  rfl

theorem inserts_about {outside : Outside N} {world : World N} {task : ReplyTask} {op : Op}
    {resume : Except PyError op.Res → Hub Replying.Reply} (left : task.prog = .await op resume)
    (about : aboutToInsert outside world task = true) : inserts op = true := by
  rw [aboutToInsert, left] at about
  split at about
  · rename_i row _ same
    cases same
    rfl
  · cases about

/-- One operation of a call, with what it inserts for the state that the call presents. -/
theorem single_perform {outside : Outside N} {spent : String → Nat} {pool : ReplyPool N} {i : Nat}
    {task : ReplyTask} {op : Op} {resume : Except PyError op.Res → Hub Replying.Reply}
    (single : Single spent pool) (found : pool.tasks[i]? = some task)
    (left : task.prog = .await op resume)
    (allowed : (onceProtocol.monitor task.request).allowed (task.seen onceProtocol) op) :
    Single (fun state => spent state + insertsNow outside state pool (.resume i))
      (pool.perform (exec outside) i task op resume) := by
  have member := List.mem_of_getElem? found
  have running : task.running := ⟨op, resume, left⟩
  have now (state : String) : insertsNow outside state pool (.resume i) = 0 ∨
      insertsNow outside state pool (.resume i) = 1 ∧ presents state task = true ∧ inserts op = true ∧
        spent state = 0 := by
    rw [insertsNow, found, Option.any_some]
    by_cases both : (presents state task && aboutToInsert outside pool.state task) = true
    · right
      obtain ⟨presented, about⟩ := Bool.and_eq_true_iff.mp both
      have insert := inserts_about left about
      refine ⟨if_pos both, presented, insert, ?_⟩
      -- The call sends its insert only now, so the state was not spent.
      obtain ⟨user, instanceId, code, requestId, call⟩ := (presents_iff state _).mp presented
      rw [call] at allowed
      have unsent : task.seen onceProtocol = false := allowed insert
      by_contra used
      rw [single.sent state used task member ⟨presented, running⟩] at unsent
      cases unsent
    · exact .inl (if_neg both)
  constructor
  · intro state
    have before := single.once state
    rcases now state with none | ⟨one, _, _, zero⟩ <;> omega
  · intro state used other inside busy
    obtain ⟨j, after⟩ := List.mem_iff_getElem?.mp inside
    rcases get_perform found after with ⟨_, rfl⟩ | ⟨different, before⟩
    · have presented : presents state task = true := busy.1
      rw [show (⟨task.request, _, _⟩ : ReplyTask) = pool.stepped (exec outside) task op resume from rfl,
        seen_after presented]
      rcases now state with none | ⟨_, _, insert, _⟩
      · rw [single.sent state (by omega) task member ⟨presented, running⟩]
        rfl
      · rw [insert, Bool.or_true]
    · rcases now state with none | ⟨_, presented, _, _⟩
      · exact single.sent state (by omega) other (List.mem_of_getElem? before) busy
      · exact absurd (single.alone state j i other task before found busy ⟨presented, running⟩) different
  · intro state
    apply exclusive_perform (single.alone state) found
    intro busy
    exact .inl ⟨busy.1, running⟩

theorem single_turn {outside : Outside N} {spent : String → Nat} (pool : ReplyPool N) (i : Nat)
    (watched : pool.Watched onceProtocol) (single : Single spent pool) :
    (pool.turn (exec outside) instant i).Watched onceProtocol ∧
      Single (fun state => spent state + insertsNow outside state pool (.resume i))
        (pool.turn (exec outside) instant i) := by
  by_cases running : ∃ task op resume, pool.tasks[i]? = some task ∧ task.prog = .await op resume
  · obtain ⟨task, op, resume, found, left⟩ := running
    apply turn_performed (fun after : ReplyPool N => after.Watched onceProtocol ∧
      Single (fun state => spent state + insertsNow outside state pool (.resume i)) after)
      pool i found left
    · constructor
      · exact fun j => watched_at_perform (watched j) found left
      · exact single_perform single found left (follows_of_watched (watched i) found left).1
    · rintro middle third next onward present waits quick ⟨watched, inside⟩
      constructor
      · exact fun j => watched_at_perform (watched j) present waits
      · have moved : Single (fun state => spent state + insertsNow outside state pool (.resume i) +
            insertsNow outside state middle (.resume i))
            (middle.perform (exec outside) i third next onward) :=
          single_perform inside present waits (follows_of_watched (watched i) present waits).1
        -- A clock or random bytes insert nothing.
        have nothing (state : String) : insertsNow outside state middle (.resume i) = 0 := by
          rw [insertsNow, present, Option.any_some]
          apply if_neg
          rw [Bool.and_eq_true]
          rintro ⟨_, about⟩
          have insert := inserts_about waits about
          cases next with
          | store statement => cases quick
          | _ => cases insert
        simp only [nothing, Nat.add_zero] at moved
        exact moved
  · have ended : ∀ task op resume, pool.tasks[i]? = some task → task.prog ≠ .await op resume :=
      fun task op resume found left => running ⟨task, op, resume, found, left⟩
    have nothing (state : String) : insertsNow outside state pool (.resume i) = 0 := by
      rw [insertsNow]
      apply if_neg
      cases found : pool.tasks[i]? with
      | none => simp
      | some task =>
          rw [Option.any_some, Bool.and_eq_true]
          rintro ⟨_, about⟩
          rw [aboutToInsert] at about
          split at about
          · rename_i row resume left
            exact ended task _ _ found left
          · cases about
    rw [turn_ended pool i ended]
    simp only [nothing, Nat.add_zero]
    exact ⟨watched, single⟩

theorem insertions_single {settings : Settings} {outside : Outside N} (events : List (Event Request))
    {spent : String → Nat} {pool : ReplyPool N} (watched : pool.Watched onceProtocol)
    (single : Single spent pool) (unused : Unused settings outside spent pool events) (state : String) :
    spent state + insertions settings outside state pool events ≤ 1 := by
  induction events generalizing spent pool with
  | nil => exact single.once state
  | cons event rest ih =>
      obtain ⟨fresh, onward⟩ := unused
      rw [insertions, ← Nat.add_assoc]
      cases event with
      | start request =>
          exact ih (watched_start watched (once_served settings request))
            (single_start settings outside single fresh) onward
      | resume i =>
          obtain ⟨watched, single⟩ := single_turn pool i watched single
          exact ih watched single onward

/-- While every state is presented only when no other call with it is under way
and none has inserted a row, a state leads to one row at most. -/
theorem unused_state_inserts_once (settings : Settings) (outside : Outside N) (world : World N)
    (events : List (Event Request)) (state : String)
    (unused : Unused settings outside (fun _ => 0) ⟨world, []⟩ events) :
    insertions settings outside state ⟨world, []⟩ events ≤ 1 := by
  have bound := insertions_single events ?_ ?_ unused state
  · simpa using bound
  · intro i task impossible
    cases impossible
  · exact ⟨fun _ => Nat.zero_le 1, fun _ used => absurd rfl used, fun _ => exclusive_empty world _⟩

/-! The same state with the codes of two mailboxes. -/

/-- A provider whose tokens and mailboxes are named after the code, and that refuses one code. -/
def byCode (request : HttpRequest) (state : Unit) : Except String HttpResponse × Unit :=
  match request with
  | .post _ form =>
      if form.lookup "code" = some "mistyped" then (.ok ⟨400, "invalid_grant", .ok .null⟩, state)
      else (.ok (tokenAnswer ((form.lookup "code").getD "") none), state)
  | .get _ bearer => (.ok ⟨200, "", .ok (.obj [("mail", .str bearer)])⟩, state)

def presenting (code : String) : Request := .completeGrant sampleUser "mail" code offeredState none

/-- A call that presents the offered state, with the turns it is given. -/
def present (i : Nat) (code : String) : List (Event Request) :=
  .start (presenting code) :: (List.replicate 10 i).map .resume

def replayed (events : List (Event Request)) : ReplyPool Unit :=
  (⟨⟨mappedStore, ()⟩, []⟩ : ReplyPool Unit).play (exec (Outside.still byCode)) instant
    (reply sampleSettings) events

def presentTwice : List (Event Request) :=
  Binding.offerEvents ++ (present 1 "ann@example.org" ++ present 2 "bob@example.org")

/-- The first code is refused by the provider. -/
def presentAgain : List (Event Request) :=
  Binding.offerEvents ++ (present 1 "mistyped" ++ present 2 "bob@example.org")

theorem play_start (pool : ReplyPool Unit) (request : Request) (rest : List (Event Request)) :
    pool.play (exec (Outside.still byCode)) instant (reply sampleSettings) (.start request :: rest) =
      (⟨pool.state, pool.tasks ++ [⟨request, [], reply sampleSettings request⟩]⟩ :
        ReplyPool Unit).play (exec (Outside.still byCode)) instant (reply sampleSettings) rest := rfl

theorem insertions_start (state : String) (pool : ReplyPool Unit) (request : Request)
    (rest : List (Event Request)) :
    insertions sampleSettings (Outside.still byCode) state pool (.start request :: rest) =
      insertions sampleSettings (Outside.still byCode) state
        ⟨pool.state, pool.tasks ++ [⟨request, [], reply sampleSettings request⟩]⟩ rest :=
  Nat.zero_add _

theorem state_offered : ∃ log authUrl, (replayed Binding.offerEvents).tasks =
    [⟨.initiateGrant sampleUser "mail" "http://127.0.0.1/callback", log,
      .ret (.offered ⟨authUrl, offeredState⟩)⟩] :=
  ⟨_, _, rfl⟩

/-- A state that `initiate_grant` returned leads to two rows. -/
theorem state_replayed :
    (∃ task ∈ (replayed presentTwice).tasks, ∃ authUrl,
      task.prog = .ret (.offered ⟨authUrl, offeredState⟩)) ∧
      insertions sampleSettings (Outside.still byCode) offeredState ⟨⟨mappedStore, ()⟩, []⟩
        presentTwice = 2 := by
  constructor
  · obtain ⟨log, authUrl, tasks⟩ := state_offered
    have first : (replayed Binding.offerEvents).tasks[0]? = _ := congrArg (·[0]?) tasks
    obtain ⟨later, found, _, kept⟩ := play_place first
      (present 1 "ann@example.org" ++ present 2 "bob@example.org")
    rw [kept fun ⟨_, _, left⟩ => by cases left] at found
    rw [replayed, presentTwice, play_append]
    exact ⟨_, List.mem_of_getElem? found, authUrl, rfl⟩
  · rw [presentTwice, insertions_append, insertions_append, present, present, insertions_start,
      insertions_start, play_start]
    simp only [presenting, reply_complete, completeGrant, authorize, decode_state_offered]
    decide +kernel

/-- A call whose code the provider refuses inserts nothing. -/
theorem mistyped_ended :
    insertions sampleSettings (Outside.still byCode) offeredState (replayed Binding.offerEvents)
        (present 1 "mistyped") = 0 ∧
      ∀ task ∈ (replayed (Binding.offerEvents ++ present 1 "mistyped")).tasks, ¬ task.running := by
  rw [replayed, replayed, play_append, present, insertions_start, play_start]
  simp only [presenting, reply_complete, completeGrant, authorize, decode_state_offered]
  constructor <;> decide +kernel

/-- After such a call the state may be presented again. -/
theorem state_presented_again :
    insertions sampleSettings (Outside.still byCode) offeredState ⟨⟨mappedStore, ()⟩, []⟩
      presentAgain ≤ 1 := by
  apply unused_state_inserts_once sampleSettings (Outside.still byCode) ⟨mappedStore, ()⟩ presentAgain
    offeredState
  obtain ⟨log, authUrl, tasks⟩ := state_offered
  obtain ⟨nothing, ended⟩ := mistyped_ended
  apply (unused_append _ _ _ _).mpr
  constructor
  · exact ⟨trivial, trivial, trivial, trivial⟩
  apply (unused_append _ _ _ _).mpr
  constructor
  · refine ⟨⟨rfl, ?_⟩, unused_turns _ _ (List.replicate 10 1)⟩
    intro task member presented
    have only : task ∈ (replayed Binding.offerEvents).tasks := member
    rw [tasks, List.mem_singleton] at only
    rw [only] at presented
    cases presented
  · refine ⟨⟨?_, ?_⟩, unused_turns _ _ (List.replicate 10 2)⟩
    · have offered : insertions sampleSettings (Outside.still byCode) offeredState
          ⟨⟨mappedStore, ()⟩, []⟩ Binding.offerEvents = 0 := rfl
      rw [replayed] at nothing
      beta_reduce
      rw [offered, Nat.add_zero, Nat.zero_add, nothing]
    · intro task member _
      rw [replayed, play_append] at ended
      exact ended task member

end Lehen.Replaying
