import Lehen.Binding
import Lehen.Retrieval

/-!
The token of a completed grant, from the answer of the token endpoint to the call
that asks for it.
-/

namespace Lehen.Delivery

open Storage OAuth Secrets AuditService ConnectionsService SourceAdapter Footprint Retrieval Refreshing
open Binding (Unposted postsForm timeless_gates)
open Prog (Tells tells_bind tells_ret tells_raise tells_perform_then only_bind only_perform
  only_mono only_of_straight only_require only_trace leaves_only run_bind_ok trace_first trace_then
  trace_perform)

variable {N : Type} {settings : Settings} {outside : Outside N}

abbrev Entry := (op : Op) × Except PyError op.Res

/-! What a completed grant leaves. -/

/-- The answer of a token endpoint that gives these tokens. -/
def Holds (response : HttpResponse) (tokens : OAuthTokens) : Prop :=
  ∃ data issuedAt, acceptedBody response = .ok data ∧ tokensOfResponse data issuedAt = .ok tokens

/-- The call posted once, and the tokens of the answer are sealed in the row it added. -/
structure Granted (settings : Settings) (before : Store) (tokens : OAuthTokens) (row : ConnectionRow)
    (log : List Entry) (after : Store) : Prop where
  posted : ∃ url form response, log.filter postsForm = [⟨.http (.post url form), .ok response⟩] ∧
    Holds response tokens
  stored : ∃ nonce envelope, encrypt settings.aead (tokenBlob tokens) settings.masterKey nonce =
    .ok envelope ∧ after.connections =
      before.connections ++ [{ row with encryptedCredentials := some envelope }]
  connected : row.status = .connected

/-- What holds of a call that returned. -/
def Returning {α : Type} (post : α → List Entry → World N → Prop) (outcome : Except PyError α)
    (log : List Entry) (after : World N) : Prop :=
  ∀ value, outcome = .ok value → post value log after

theorem returning_error {α : Type} {post : α → List Entry → World N → Prop} (error : PyError)
    (log : List Entry) (after : World N) : Returning post (.error error) log after := by
  rintro value ⟨⟩

/-- A part that only asks, and posts nothing. -/
theorem asking_then {α β : Type} {body : Hub β} {next : β → Hub α} {past : List Entry} {world : World N}
    {post : α → List Entry → World N → Prop} (asking : body.Only Asking) (unposted : body.Only Unposted)
    (rest : ∀ value own after, own.filter postsForm = [] → after.store = world.store →
      Tells (exec outside) (next value) (past ++ own) after (Returning post)) :
    Tells (exec outside) (body.bind next) past world (Returning post) := by
  have store : (body.run (exec outside) world).2.store = world.store := by
    have kept (op : Op) (state : World N) (fits : Asking op) (same : state.store = world.store) :
        (exec outside op state).2.store = world.store := (asking_store outside op state fits).trans same
    exact leaves_only (fun state : World N => state.store = world.store) asking rfl kept
  have silent : (body.trace (exec outside) world).filter postsForm = [] := by
    apply List.filter_eq_nil_iff.mpr
    intro entry member
    have apart := only_trace unposted member
    obtain ⟨op, answer⟩ := entry
    cases op with
    | http request =>
        cases request with
        | post url form => exact apart.elim
        | get url bearer => simp [postsForm]
    | _ => simp [postsForm]
  rw [tells_bind, Tells]
  cases outcome : (body.run (exec outside) world).1 with
  | error error => exact returning_error error _ _
  | ok value => exact rest value _ _ silent store

/-- A part that is done at once. -/
theorem quick_then {α β : Type} {body : Hub β} {next : β → Hub α} {past : List Entry} {world : World N}
    {raises : Prop} {post : α → List Entry → World N → Prop} (quick : body.Straight Quick raises)
    (rest : ∀ value own after, own.filter postsForm = [] → after.store = world.store →
      Tells (exec outside) (next value) (past ++ own) after (Returning post)) :
    Tells (exec outside) (body.bind next) past world (Returning post) := by
  apply asking_then (only_of_straight quick asking_of_quick) (only_of_straight quick _) rest
  intro op instantly
  cases op with
  | http request => cases instantly
  | _ => trivial

theorem unposted_of_timeless (op : Op) (timeless : Binding.Timeless op) : Unposted op := by
  cases op with
  | store statement => trivial
  | _ => cases timeless

theorem require_then {α : Type} {condition : Prop} [Decidable condition] {error : PyError}
    {next : Unit → Hub α} {past : List Entry} {world : World N} {post : α → List Entry → World N → Prop}
    (rest : Tells (exec outside) (next ()) past world (Returning post)) :
    Tells (exec outside) ((Prog.require condition error : Hub Unit).bind next) past world
      (Returning post) := by
  unfold Prog.require
  split
  · exact rest
  · rw [Prog.bind_raise, tells_raise]
    exact returning_error error _ _

theorem lift_then {α β : Type} {outcome : Except PyError β} {next : β → Hub α} {past : List Entry}
    {world : World N} {post : α → List Entry → World N → Prop}
    (rest : ∀ value, outcome = .ok value → Tells (exec outside) (next value) past world (Returning post)) :
    Tells (exec outside) ((Prog.lift outcome : Hub β).bind next) past world (Returning post) := by
  cases outcome with
  | ok value => exact rest value rfl
  | error error =>
      change Tells _ (.raise error) _ _ _
      rw [tells_raise]
      exact returning_error error _ _

/-- The exchange posts, and returns the tokens of the answer. -/
theorem exchange_then {α : Type} {tokenEndpoint clientId clientSecret redirectUri code verifier : String}
    {next : OAuthTokens → Hub α} {past : List Entry} {world : World N}
    {post : α → List Entry → World N → Prop}
    (rest : ∀ tokens url form response own after, Holds response tokens →
      own.filter postsForm = [⟨.http (.post url form), .ok response⟩] → after.store = world.store →
        Tells (exec outside) (next tokens) (past ++ own) after (Returning post)) :
    Tells (exec outside)
      ((exchangeCodeForTokens tokenEndpoint clientId clientSecret redirectUri code verifier).bind next)
      past world (Returning post) := by
  have unstored := exec_elsewhere outside (.http (.post tokenEndpoint (withSecret
    [("grant_type", "authorization_code"), ("client_id", clientId), ("code", code),
      ("redirect_uri", redirectUri), ("code_verifier", verifier)] clientSecret))) world
    (fun statement same => by cases same)
  rw [exchangeCodeForTokens, postTokenEndpoint]
  unfold httpSend Prog.perform
  simp only [Prog.bind_eq, Prog.handle, Prog.bind_await]
  rw [Prog.tells_await]
  generalize exec outside (.http (.post tokenEndpoint _)) world = answered at unstored ⊢
  obtain ⟨answer, reached⟩ := answered
  cases answer with
  | error error =>
      simp only [Prog.handle]
      split
      · rw [fail, Prog.bind_raise, Prog.bind_raise, tells_raise]
        exact returning_error _ _ _
      · rw [Prog.bind_raise, Prog.bind_raise, tells_raise]
        exact returning_error _ _ _
  | ok response =>
      simp only [Prog.handle, Prog.bind_ret, Prog.bind_assoc]
      refine lift_then fun data accepted => ?_
      refine quick_then (quick_clock none) fun issuedAt own after silent kept => ?_
      refine lift_then fun tokens read => ?_
      -- The request is the only post of the exchange.
      have logged (form : List (String × String)) :
          ([⟨.http (.post tokenEndpoint form), .ok response⟩] ++ own : List Entry).filter postsForm =
            [⟨.http (.post tokenEndpoint form), .ok response⟩] := by
        rw [List.filter_append, silent]
        rfl
      rw [List.append_assoc]
      exact rest tokens _ _ response _ after ⟨data, issuedAt, accepted, read⟩ (logged _)
        (kept.trans unstored)

/-- The insertion of a row, which ends the call where it fails. -/
theorem insert_then {α : Type} {row : ConnectionRow} {next : Unit → Hub α} {past : List Entry}
    {before : Store} {world : World N} {post : α → List Entry → World N → Prop}
    (rest : ∀ after : World N, after.store.connections = before.connections ++ [row] →
      Tells (exec outside) (next ()) (past ++ [⟨.store (.insertConnection row), .ok ()⟩]) after
        (Returning post)) (same : world.store = before) :
    Tells (exec outside) ((command (.insertConnection row)).bind next) past world (Returning post) := by
  subst same
  rcases exec_store outside (.insertConnection row) world with ⟨error, failed, _⟩ | ⟨answered, stored⟩
  · unfold command Prog.perform
    rw [Prog.bind_await, Prog.tells_await, failed]
    change Tells _ (.raise error) _ _ _
    rw [tells_raise]
    exact returning_error error _ _
  · refine tells_perform_then answered (rest _ ?_)
    rw [stored]
    rfl

/-- What is only logged at the end. -/
theorem logging_end {α : Type} {body : Hub Unit} {value : α} {past : List Entry} {world : World N}
    {raises : Prop} {post : α → List Entry → World N → Prop} (logging : body.Straight Logging raises)
    (done : ∀ own (after : World N), own.filter postsForm = [] →
      after.store.connections = world.store.connections → post value (past ++ own) after) :
    Tells (exec outside) (body.bind fun _ => .ret value) past world (Returning post) := by
  have kept (op : Op) (state : World N) (fits : Logging op)
      (same : state.store.connections = world.store.connections) :
      (exec outside op state).2.store.connections = world.store.connections := by
    have tables := calm_tables outside op state (calm_of_quiet op (quiet_of_logging op fits))
    exact tables.connections.trans same
  have store : (body.run (exec outside) world).2.store.connections = world.store.connections :=
    leaves_only (fun state : World N => state.store.connections = world.store.connections)
      (only_of_straight logging fun _ fits => fits) rfl kept
  have silent : (body.trace (exec outside) world).filter postsForm = [] := by
    apply List.filter_eq_nil_iff.mpr
    intro entry member
    have fits := only_trace (only_of_straight logging fun _ fits => fits) member
    obtain ⟨op, answer⟩ := entry
    cases op with
    | http request => exact fits.elim
    | _ => simp [postsForm]
  rw [tells_bind, Tells]
  cases outcome : (body.run (exec outside) world).1 with
  | error error => exact returning_error error _ _
  | ok result =>
      dsimp only
      rw [tells_ret]
      rintro other ⟨⟩
      exact done _ _ silent store

theorem complete_grants (settings : Settings) (outside : Outside N) (user : CurrentUser)
    (instanceId code state : String) (requestId : Option String) (world : World N) :
    Tells (exec outside) (completeGrant settings user instanceId code state requestId) [] world
      (Returning fun row log after => ∃ tokens, Granted settings world.store tokens row log after.store) := by
  unfold completeGrant authorize
  simp only [Prog.bind_eq, Prog.bind_assoc, Prog.pure_eq]
  refine quick_then (quick_decode_state ..) fun flow log₁ world₁ silent₁ kept₁ => ?_
  refine require_then (require_then ?_)
  refine asking_then (asking_gates user instanceId) (only_mono (timeless_gates user instanceId)
    unposted_of_timeless) fun place log₂ world₂ silent₂ kept₂ => ?_
  refine lift_then fun adapter _ => require_then (lift_then fun clientSecret _ => ?_)
  refine exchange_then fun tokens url form response log₃ world₃ holds posted kept₃ => ?_
  refine asking_then (only_mono (distant_identity tokens.accessToken) asking_of_distant)
    (Binding.unposted_identity tokens.accessToken) fun identity log₄ world₄ silent₄ kept₄ => ?_
  refine asking_then (only_mono (distant_health tokens.accessToken) asking_of_distant)
    (Binding.unposted_health tokens.accessToken) fun healthOk log₅ world₅ silent₅ kept₅ => ?_
  simp only [Prog.bind_ret]
  refine asking_then (asking_unconnected ..) (only_bind (only_perform trivial) fun _ => only_require _ _)
    fun _ log₆ world₆ silent₆ kept₆ => ?_
  refine asking_then (asking_seq ..) (only_bind (only_perform trivial) fun _ => trivial)
    fun seq log₇ world₇ silent₇ kept₇ => ?_
  refine asking_then (only_perform (asking_of_quick .clock rfl)) (only_perform trivial)
    fun instant log₈ world₈ silent₈ kept₈ => ?_
  rw [encryptFresh, Prog.bind_eq, Prog.bind_assoc]
  apply tells_perform_then rfl
  refine lift_then fun envelope sealed => ?_
  have store : world₈.store = world.store := by
    rw [kept₈, kept₇, kept₆, kept₅, kept₄, kept₃, kept₂, kept₁]
  refine insert_then (fun inserted added => ?_) store
  refine logging_end (logging_record_consent ..) fun own after silent kept => ?_
  refine ⟨tokens, ⟨url, form, response, ?_, holds⟩, ⟨_, envelope, sealed, ?_⟩, rfl⟩
  · simp [silent₁, silent₂, posted, silent₄, silent₅, silent₆, silent₇, silent₈, silent, postsForm]
  · rw [kept, added]

/-! What is read under an id, as long as nobody writes there. -/

def firstRow (store : Store) (id : String) : Option ConnectionRow := (rowsOf store id).head?

def Rewrites (id : String) : StoreOp → Prop
  | .updateConnections other _ => other = id
  | _ => False

def applied (statements : List StoreOp) (store : Store) : Store :=
  statements.foldl (fun store statement => (statement.apply store).2) store

theorem rows_of_appended (store : Store) (added : List ConnectionRow) (id : String) :
    rowsOf { store with connections := store.connections ++ added } id =
      rowsOf store id ++ added.filter (ConnectionWhere.withId id).holds := List.filter_append ..

theorem rows_of_updated (store : Store) (id other : String) (set : ConnectionSet) (apart : other ≠ id) :
    rowsOf { store with connections := setWhereId other set store.connections } id = rowsOf store id := by
  unfold rowsOf setWhereId
  induction store.connections with
  | nil => rfl
  | cons row rest ih =>
      rw [List.map_cons, List.filter_cons, List.filter_cons, ih]
      by_cases hit : row.id = other
      · have named : (set.apply row).id = row.id := by cases set <;> rfl
        have missed : row.id ≠ id := fun same => apart (hit.symm.trans same)
        simp [hit, ConnectionWhere.holds, named, hit ▸ missed]
      · simp [hit]

theorem first_row_spared {store : Store} {id : String} {row : ConnectionRow} {statement : StoreOp}
    (found : firstRow store id = some row) (spared : ¬ Rewrites id statement) :
    firstRow (statement.apply store).2 id = some row := by
  cases statement with
  | insertConnection added =>
      unfold firstRow at found ⊢
      simp only [StoreOp.apply]
      rw [rows_of_appended, List.head?_append, found]
      rfl
  | updateConnections other set =>
      unfold firstRow
      simp only [StoreOp.apply]
      rw [rows_of_updated store id other set spared]
      exact found
  | _ => exact found

theorem first_row_applied {store : Store} {id : String} {row : ConnectionRow} {statements : List StoreOp}
    (found : firstRow store id = some row) (spared : ∀ statement ∈ statements, ¬ Rewrites id statement) :
    firstRow (applied statements store) id = some row := by
  induction statements generalizing store with
  | nil => exact found
  | cons statement rest ih =>
      apply ih (first_row_spared found (spared statement List.mem_cons_self))
      exact fun other member => spared other (List.mem_cons_of_mem _ member)

/-! The call that asks for the token. -/

/-- Neither a request nor a write. -/
def Looking : Op → Prop
  | .store (.selectConnections _) | .clock => True
  | _ => False

section Serving

variable (settings) (outside) (world : World N) (id : String) (skew : Int) (nowTs : Option Int)

/-- The call returns the token, and does nothing but look. -/
def Serves (token : String) : Prop :=
  Tells (exec outside) (getValidAccessToken settings id skew nowTs) [] world fun outcome log _ =>
    outcome = .ok (some token) ∧ ∀ entry ∈ log, Looking entry.1

/-- The row is usable and holds the token, which is still valid. -/
def Gives (row : ConnectionRow) (token : String) : Prop :=
  ∃ envelope tokens, usableCredentials row = some envelope ∧ decodeTokenBlob settings envelope = some tokens ∧
    tokens.accessToken = token ∧ Valid outside world id skew nowTs tokens

end Serving

/-- A call that goes on to refresh writes, if it returns. -/
theorem refresh_writes {row : ConnectionRow} {tokens : OAuthTokens} {instant : Int} {world after : World N}
    {token : Option String}
    (returned : ((refreshOnce settings row tokens instant).bind fun fresh =>
      match fresh with
      | none => (markStale row.id).bind fun _ => (.ret none : Hub (Option String))
      | some fresh => (persistTokens settings row.id fresh).bind fun _ => .ret (some fresh.accessToken)).run
        (exec outside) world = (.ok token, after)) :
    ∃ entry ∈ ((refreshOnce settings row tokens instant).bind fun fresh =>
      match fresh with
      | none => (markStale row.id).bind fun _ => (.ret none : Hub (Option String))
      | some fresh => (persistTokens settings row.id fresh).bind fun _ => .ret (some fresh.accessToken)).trace
        (exec outside) world, ¬ Looking entry.1 := by
  obtain ⟨fresh, between, refreshed, rest⟩ := run_bind_ok returned
  cases fresh with
  | none =>
      obtain ⟨_, _, marked, _⟩ := run_bind_ok rest
      exact ⟨_, trace_then refreshed (trace_first (trace_perform marked)), id⟩
  | some fresh =>
      obtain ⟨_, _, persisted, _⟩ := run_bind_ok rest
      obtain ⟨_, _, sealed, written⟩ := run_bind_ok persisted
      exact ⟨_, trace_then refreshed (trace_first (trace_then sealed (trace_perform written))), id⟩

/-- What a call does with the tokens it has read. -/
theorem decided (row : ConnectionRow) (tokens : OAuthTokens) (instant skew : Int) (past : List Entry)
    (looked : ∀ entry ∈ past, Looking entry.1) (world : World N) (token : String) :
    Tells (exec outside)
      (if instant < tokens.expiresAt - skew then (.ret (some tokens.accessToken) : Hub (Option String))
        else (refreshOnce settings row tokens instant).bind fun fresh =>
          match fresh with
          | none => (markStale row.id).bind fun _ => .ret none
          | some fresh => (persistTokens settings row.id fresh).bind fun _ => .ret (some fresh.accessToken))
      past world fun outcome log _ => (outcome = .ok (some token) ∧ ∀ entry ∈ log, Looking entry.1) ↔
        (tokens.accessToken = token ∧ instant < tokens.expiresAt - skew) := by
  by_cases valid : instant < tokens.expiresAt - skew
  · rw [if_pos valid, tells_ret]
    constructor
    · rintro ⟨same, _⟩
      cases same
      exact ⟨rfl, valid⟩
    · rintro ⟨rfl, _⟩
      exact ⟨rfl, looked⟩
  · rw [if_neg valid, Tells]
    constructor
    · rintro ⟨returned, looks⟩
      obtain ⟨entry, member, writes⟩ := refresh_writes (Prod.ext returned rfl)
      exact absurd (looks entry (List.mem_append_right _ member)) writes
    · exact fun held => absurd held.2 valid

/-- The call serves a token exactly if the first row of the id gives it. -/
theorem serves_iff (reliable : outside.Reliable) {world : World N} {id : String} {row : ConnectionRow}
    (found : firstRow world.store id = some row) (skew : Int) (nowTs : Option Int) (token : String) :
    Serves settings outside world id skew nowTs token ↔
      Gives settings outside world id skew nowTs row token := by
  change Tells (exec outside) (getValidAccessToken settings id skew nowTs) [] world fun outcome log _ =>
    (outcome = .ok (some token) ∧ ∀ entry ∈ log, Looking entry.1) ↔
      Gives settings outside world id skew nowTs row token
  have carried := exec_reliable reliable (.selectConnections (.withId id)) world
  have usable : usableRow (rowsOf world.store id) =
      (usableCredentials row).map fun envelope => (row, envelope) := by
    unfold firstRow at found
    rw [usableRow, found]
  have read : ((StoreOp.selectConnections (.withId id)).apply world.store).1 = rowsOf world.store id := rfl
  simp only [getValidAccessToken, fetchConnectionRow, query, Prog.bind_eq, Prog.bind_assoc, Prog.pure_eq]
  apply tells_perform_then carried.1
  simp only [read, usable, Prog.bind_ret]
  -- Without tokens in the row the call gives none, whatever it does then.
  cases credentials : usableCredentials row with
  | none =>
      have ungiven : ¬ Gives settings outside world id skew nowTs row token := by
        rintro ⟨envelope, tokens, other, _⟩
        rw [credentials] at other
        cases other
      dsimp only [Option.map_none]
      rw [tells_ret]
      exact iff_of_false (by rintro ⟨⟨⟩, _⟩) ungiven
  | some envelope =>
      dsimp only [Option.map_some]
      cases decoded : decodeTokenBlob settings envelope with
      | none =>
          have ungiven : ¬ Gives settings outside world id skew nowTs row token := by
            rintro ⟨other, tokens, same, opened, _⟩
            rw [credentials] at same
            cases same
            rw [decoded] at opened
            cases opened
          dsimp only
          rw [tells_bind, Tells]
          split
          · rw [tells_ret]
            exact iff_of_false (by rintro ⟨⟨⟩, _⟩) ungiven
          · exact iff_of_false (by rintro ⟨⟨⟩, _⟩) ungiven
      | some tokens =>
          -- The row gives the one token that its envelope opens to.
          have given : Gives settings outside world id skew nowTs row token ↔
              tokens.accessToken = token ∧ Valid outside world id skew nowTs tokens := by
            constructor
            · rintro ⟨other, others, same, opened, named, valid⟩
              rw [credentials] at same
              cases same
              rw [decoded] at opened
              cases opened
              exact ⟨named, valid⟩
            · rintro ⟨named, valid⟩
              exact ⟨envelope, tokens, credentials, decoded, named, valid⟩
          simp only [given]
          cases nowTs with
          | some instant => exact decided row tokens instant skew _ (by simp [Looking]) _ token
          | none =>
              simp only [readClock, now, Prog.bind_eq, Prog.bind_assoc, Prog.bind_ret, Prog.pure_eq]
              apply tells_perform_then rfl
              exact decided row tokens _ skew _ (by simp [Looking]) _ token

/-- The tokens a completed grant got, by the one answer of the token endpoint. -/
def Received (log : List Entry) (tokens : OAuthTokens) : Prop :=
  ∃ url form response, log.filter postsForm = [⟨.http (.post url form), .ok response⟩] ∧
    Holds response tokens

/-- The first row under the id that was there before, if there was one, gives the token, too. -/
def Unshadowed (settings : Settings) (outside : Outside N) (before : Store) (later : World N) (id : String)
    (skew : Int) (nowTs : Option Int) (token : String) : Prop :=
  ∀ other, firstRow before id = some other → Gives settings outside later id skew nowTs other token

/-- Sealed tokens are read back as they were, and the token of a completed grant is served
while it is valid and nobody writes to its row, exactly if no older row has its id, or the
first one that does gives the same. -/
theorem granted_token_served_iff (lawful : settings.aead.Lawful) (reliable : outside.Reliable)
    (user : CurrentUser) (instanceId code state : String) (requestId : Option String)
    (world after : World N) (row : ConnectionRow)
    (completed : (completeGrant settings user instanceId code state requestId).run (exec outside) world =
      (.ok row, after)) :
    (∀ tokens nonce envelope, encrypt settings.aead (tokenBlob tokens) settings.masterKey nonce =
      .ok envelope → decodeTokenBlob settings envelope = some tokens) ∧
    ∃ tokens,
      Received ((completeGrant settings user instanceId code state requestId).trace (exec outside) world)
        tokens ∧
      ∀ (statements : List StoreOp) (later : World N), (∀ statement ∈ statements, ¬ Rewrites row.id statement) →
        later.store = applied statements after.store →
          ∀ skew nowTs, Valid outside later row.id skew nowTs tokens →
            (Serves settings outside later row.id skew nowTs tokens.accessToken ↔
              Unshadowed settings outside world.store later row.id skew nowTs tokens.accessToken) := by
  refine ⟨fun tokens nonce envelope => decode_sealed lawful tokens nonce envelope, ?_⟩
  have grants := complete_grants settings outside user instanceId code state requestId world
  rw [Tells, List.nil_append, completed] at grants
  obtain ⟨tokens, posted, ⟨nonce, envelope, sealed, added⟩, connected⟩ := grants row rfl
  change after.store.connections = _ at added
  refine ⟨tokens, posted, fun statements later spared store skew nowTs valid => ?_⟩
  -- Under the id stand the rows of before, then the new one.
  have rows : rowsOf after.store row.id =
      rowsOf world.store row.id ++ [{ row with encryptedCredentials := some envelope }] := by
    have own : (ConnectionWhere.withId row.id).holds { row with encryptedCredentials := some envelope } =
        true := decide_eq_true rfl
    simp only [rowsOf, added, List.filter_append, List.filter_cons, own, if_true, List.filter_nil]
  have firstAfter : firstRow after.store row.id =
      some ((firstRow world.store row.id).getD { row with encryptedCredentials := some envelope }) := by
    unfold firstRow
    rw [rows, List.head?_append]
    cases (rowsOf world.store row.id).head? <;> rfl
  have first := first_row_applied firstAfter spared
  rw [← store] at first
  rw [serves_iff reliable first]
  cases earlier : firstRow world.store row.id with
  | some other =>
      rw [Option.getD_some, Unshadowed]
      constructor
      · intro gives another same
        rw [earlier] at same
        cases same
        exact gives
      · exact fun unshadowed => unshadowed other earlier
  | none =>
      -- An empty envelope opens to nothing, so this one is not empty.
      have filled : envelope ≠ "" := by
        rintro rfl
        have opened := decode_sealed lawful tokens nonce "" sealed
        rw [decode_empty] at opened
        cases opened
      have usable : usableCredentials { row with encryptedCredentials := some envelope } = some envelope := by
        simp [usableCredentials, connected, filled]
      rw [Option.getD_none]
      constructor
      · intro _ other same
        rw [earlier] at same
        cases same
      · exact fun _ => ⟨envelope, tokens, usable, decode_sealed lawful tokens nonce envelope sealed, rfl, valid⟩

/-! Two users whose subjects and instances spell the same text: `u1` on `mail:eu`, and
`u1:mail` on `eu`, whose row holds no credentials. -/

def euFlow : OAuthFlowState := { offeredFlow with instanceId := "mail:eu" }

def euState : String :=
  Base64.urlsafeB64encode (currentVersion :: List.replicate nonceLen 0 ++ taggingAead.encrypt
    sampleSettings.stateKey (List.replicate nonceLen 0) (utf8Encode (JsonText.dumps euFlow.asDict)))

def stubRow : ConnectionRow :=
  { id := connectionId "u1:mail" "eu" 0, userSub := "u1:mail", username := "bob"
    integrationInstanceId := "eu", connectionSeq := 0, externalSubject := "", displayLabel := ""
    privacyClass := defaultPrivacyClass, encryptedCredentials := none, status := .connected
    connectedAt := 0, disconnectedAt := none, lastHealthStatus := none, lastHealthCheckAt := none }

def euWorld (rows : List ConnectionRow) : World Unit :=
  ⟨{ Store.empty with
      connections := rows
      instances := [{ samplePlace with id := "mail:eu" }]
      siam := [{ id := SiamService.siamId, mapping := .obj [("staff", .arr [.str "mail:eu"])]
                 updatedBy := "root", updatedAt := 0 }] }, ()⟩

theorem decode_state_eu :
    decodeState sampleSettings euState sampleSettings.stateKey = now.bind fun instant =>
      Prog.lift (checkAge euFlow defaultStateMaxAgeSeconds (unixSeconds instant)) := by
  have long : sampleSettings.stateKey.length = keyLen := by decide
  have decoded : decodeFlow sampleSettings.aead euState sampleSettings.stateKey = .ok euFlow := by
    apply decode_sealed_flow tagging_aead_lawful euFlow _ ⟨List.replicate nonceLen 0, rfl⟩
    rw [euState, encrypt, if_pos long]
  unfold decodeState
  rw [decoded]
  rfl

def euGrant : Hub ConnectionRow := completeGrant sampleSettings sampleUser "mail:eu" "code" euState

def euTokens : OAuthTokens := ⟨"access-0", some "refresh-0", 3600, "", "Bearer"⟩

/-- A valid token of a completed grant is not served: the call reads the row of the other user. -/
theorem other_row_read : ∃ row after,
    euGrant.run (exec (Outside.still provider)) (euWorld [stubRow]) = (.ok row, after) ∧
      Received (euGrant.trace (exec (Outside.still provider)) (euWorld [stubRow])) euTokens ∧
        Valid (Outside.still provider) after row.id 60 (some 0) euTokens ∧
          ((getValidAccessToken sampleSettings row.id 60 (some 0)).run (exec (Outside.still provider))
            after).1 = .ok none := by
  unfold euGrant completeGrant authorize
  rw [decode_state_eu]
  refine ⟨_, _, rfl, ⟨_, _, _, rfl, _, 0, rfl, rfl⟩, ?_, rfl⟩
  change (0 : Int) < 3600 - 60
  decide

theorem eu_completes : ∃ row after,
    euGrant.run (exec (Outside.still provider)) (euWorld []) = (.ok row, after) := by
  unfold euGrant completeGrant authorize
  rw [decode_state_eu]
  exact ⟨_, _, rfl⟩

theorem lone_row_served : ∃ row after tokens,
    euGrant.run (exec (Outside.still provider)) (euWorld []) = (.ok row, after) ∧
      Received (euGrant.trace (exec (Outside.still provider)) (euWorld [])) tokens ∧
        (Valid (Outside.still provider) after row.id 60 (some 0) tokens →
          Serves sampleSettings (Outside.still provider) after row.id 60 (some 0) tokens.accessToken) := by
  obtain ⟨row, after, completed⟩ := eu_completes
  obtain ⟨_, tokens, received, serves⟩ := granted_token_served_iff tagging_aead_lawful
    (still_reliable provider) sampleUser "mail:eu" "code" euState none (euWorld []) after row completed
  refine ⟨row, after, tokens, completed, received, fun valid => ?_⟩
  apply (serves [] after (fun _ member => nomatch member) rfl 60 (some 0) valid).mpr
  intro other earlier
  cases earlier

end Lehen.Delivery
