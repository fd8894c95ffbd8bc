import Lehen.SignIn

/-!
The pages of one tab, interleaved at their awaits: whose verifier a token exchange
presents, and where the token that the tab keeps comes from.
-/

namespace Lehen.SignIn

open EdgeState (Exchange)
open Base64 (Bytes)

/-! What a sign-in leaves in the storage. -/

abbrev Verifier := { bytes : Bytes // bytes.length = 32 }

def pairEntries (verifier state : Verifier) : List Entry :=
  [⟨.randomValues 32, .ok state⟩, ⟨.setItem "lehen_pkce_verifier" (b64urlEncode verifier.val), .ok ()⟩,
    ⟨.setItem "lehen_pkce_state" (b64urlEncode state.val), .ok ()⟩]

/-- Both were drawn, the verifier first, and were stored together. -/
def Begun (verifier state : String) (history : List Entry) : Prop :=
  ∃ (drawn drawn' : Verifier) (before after : List Entry),
    verifier = b64urlEncode drawn.val ∧ state = b64urlEncode drawn'.val ∧
      ⟨.randomValues 32, .ok drawn⟩ ∈ before ∧ history = before ++ pairEntries drawn drawn' ++ after

/-- A token that the provider or the Hub has answered with. -/
def Granted (token : String) (history : List Entry) : Prop :=
  ∃ (request : Fetch) (reply : Reply) (tokens : Json) (value : Option Json),
    (⟨.fetch request, .ok reply⟩ : Entry) ∈ history ∧ reply.ok = true ∧
      ((∃ exchange, request = .exchange exchange ∧ reply.json = .ok tokens) ∨
        ∃ username password text, request = .localLogin username password ∧ reply.text = .ok text ∧
          tokens = parsed text) ∧
      property tokens "access_token" = .ok value ∧ token = textOf value

/-- The verifier that a callback with this state redeems. -/
def Redeems (state : Option String) (verifier : String) (history : List Entry) : Prop :=
  (∃ own, state = some own ∧ Begun verifier own history) ∨ (state = none ∧ verifier = "null")

def PairKept (items : Dict String) (history : List Entry) : Prop :=
  (items.lookup "lehen_pkce_verifier" = none ∧ items.lookup "lehen_pkce_state" = none) ∨
    ∃ verifier state, items.lookup "lehen_pkce_verifier" = some verifier ∧
      items.lookup "lehen_pkce_state" = some state ∧ Begun verifier state history

variable {N : Type}

structure Sound (world : TabWorld N) : Prop where
  pair : PairKept world.session.items world.history
  bearer : ∀ token, world.session.items.lookup "lehen_access_token" = some token →
    Granted token world.history

/-- What a turn may do: the history only grows, and a sound tab stays sound. -/
structure Later (before after : TabWorld N) : Prop where
  history : before.history <+: after.history
  sound : Sound before → Sound after

instance : IsPreorder (TabWorld N) Later where
  refl _ := ⟨List.prefix_rfl, id⟩
  trans _ _ _ first second := ⟨first.history.trans second.history, second.sound ∘ first.sound⟩

theorem begun_later {verifier state : String} {before after : List Entry}
    (grows : before <+: after) (begun : Begun verifier state before) : Begun verifier state after := by
  obtain ⟨drawn, drawn', first, rest, own, own', member, rfl⟩ := begun
  obtain ⟨more, rfl⟩ := grows
  exact ⟨drawn, drawn', first, rest ++ more, own, own', member, List.append_assoc _ _ _⟩

theorem granted_later {token : String} {before after : List Entry} (grows : before <+: after)
    (granted : Granted token before) : Granted token after := by
  obtain ⟨request, reply, tokens, value, member, rest⟩ := granted
  exact ⟨request, reply, tokens, value, grows.subset member, rest⟩

theorem redeems_later {state : Option String} {verifier : String} {before after : List Entry}
    (grows : before <+: after) (redeems : Redeems state verifier before) : Redeems state verifier after := by
  rcases redeems with ⟨own, same, begun⟩ | missing
  · exact .inl ⟨own, same, begun_later grows begun⟩
  · exact .inr missing

theorem pair_later {items : Dict String} {before after : List Entry} (grows : before <+: after)
    (kept : PairKept items before) : PairKept items after := by
  rcases kept with absent | ⟨verifier, state, own, own', begun⟩
  · exact .inl absent
  · exact .inr ⟨verifier, state, own, own', begun_later grows begun⟩

/-! Operations that leave the pair and the token alone. -/

def tabKeys : List String := ["lehen_pkce_verifier", "lehen_pkce_state", "lehen_access_token"]

def Calm : TabOp → Prop
  | .setItem key _ | .removeItem key => key ∉ tabKeys
  | .clear | .fetch (.exchange _) | .navigate (.authorize _ _) => False
  | _ => True

section Serving

variable (origin : String) (browser : Browser N)

/-- What is told of the operations of a gesture: an authorization request carries the
state and the challenge of a sign-in that was begun, an exchange the verifier of the one
whose state the callback has. -/
def Told (gesture : Gesture) (op : TabOp) (_ : Except JsError op.Res) (world : TabWorld N) : Prop :=
  match op with
  | .navigate (.authorize _ params) => ∃ verifier state, Begun verifier state world.history ∧
      params.lookup "state" = some state ∧
      params.lookup "code_challenge" = some (b64urlEncode (browser.sha256 verifier))
  | .fetch (.exchange exchange) => ∃ role code state, gesture = .callback role (some code) state ∧
      code ≠ "" ∧ exchange.code = code ∧ exchange.redirectUri = redirectUri origin role ∧
      Redeems state exchange.codeVerifier world.history
  | _ => True

variable {origin browser}

theorem history_grows (op : TabOp) (world : TabWorld N) :
    world.history <+: (exec browser op world).2.history := List.prefix_append _ _

theorem told_lasting : Schedule.Lasting (exec browser) Later (Told origin browser) := by
  have mono (gesture : Gesture) (op : TabOp) (answer : Except JsError op.Res) (state now : TabWorld N)
      (grows : state.history <+: now.history) (told : Told origin browser gesture op answer state) :
      Told origin browser gesture op answer now := by
    unfold Told at told ⊢
    split
    · obtain ⟨verifier, own, begun, rest⟩ := told
      exact ⟨verifier, own, begun_later grows begun, rest⟩
    · obtain ⟨role, code, own, request, given, same, uri, redeems⟩ := told
      exact ⟨role, code, own, request, given, same, uri, redeems_later grows redeems⟩
    · trivial
  constructor
  · exact fun gesture op answer other state told => mono _ _ _ _ _ (history_grows other state) told
  · exact fun gesture op answer state now later told => mono _ _ _ _ _ later.history told

theorem calm_items {op : TabOp} (calm : Calm op) (session : Session) :
    ∀ key ∈ tabKeys, (sessionAfter op session).items.lookup key = session.items.lookup key := by
  intro key listed
  cases op with
  | setItem other value => exact AList.lookup_insert_ne fun same => calm (same ▸ listed)
  | removeItem other => exact AList.lookup_erase_ne fun same => calm (same ▸ listed)
  | clear => exact absurd calm id
  | _ => rfl

theorem calm_later (op : TabOp) (world : TabWorld N) (calm : Calm op) :
    Later world (exec browser op world).2 := by
  have grows : world.history <+: (exec browser op world).2.history := history_grows op world
  have same := calm_items calm world.session
  refine ⟨grows, fun sound => ⟨?_, fun token kept => ?_⟩⟩
  · have pair := pair_later grows sound.pair
    unfold PairKept at pair ⊢
    rwa [exec, same _ (by decide), same _ (by decide)]
  · rw [exec, same _ (by decide)] at kept
    exact granted_later grows (sound.bearer token kept)

theorem same_later {op : TabOp} {world : TabWorld N} (same : sessionAfter op world.session = world.session) :
    Later world (exec browser op world).2 := by
  have grows : world.history <+: (exec browser op world).2.history := history_grows op world
  refine ⟨grows, fun sound => ⟨?_, fun token kept => ?_⟩⟩
  · rw [exec, same]
    exact pair_later grows sound.pair
  · rw [exec, same] at kept
    exact granted_later grows (sound.bearer token kept)

theorem calm_told {gesture : Gesture} (op : TabOp) (world : TabWorld N) (calm : Calm op) :
    Told origin browser gesture op (exec browser op world).1 (exec browser op world).2 := by
  unfold Told
  split
  · exact absurd calm id
  · exact absurd calm id
  · trivial

/-! The calm parts. -/

theorem calm_kept {key : String} {url : Tab String} (calm : url.Only Calm) :
    (keptFor key url).Only Calm := by
  unfold keptFor
  refine Prog.only_bind (Prog.only_perform trivial) fun cached => ?_
  cases cached with
  | some value => trivial
  | none =>
      refine Prog.only_bind calm fun url => Prog.only_bind (Prog.only_perform trivial) fun reply => ?_
      refine Prog.only_bind (Prog.only_lift _) fun value => ?_
      exact Prog.only_bind (Prog.only_perform trivial) fun _ => trivial

theorem calm_auth_config : loadAuthConfig.Only Calm := calm_kept trivial

theorem calm_well_known (role : SpaRole) (authConfig : Json) : (loadWellKnown role authConfig).Only Calm :=
  calm_kept (Prog.only_bind (Prog.only_lift _) fun _ => trivial)

theorem calm_fetch_json (url : String) : (fetchJSON url).Only Calm := by
  unfold fetchJSON
  refine Prog.only_bind (Prog.only_perform trivial) fun token => ?_
  refine Prog.only_bind (Prog.only_perform trivial) fun reply => ?_
  split
  · trivial
  · refine Prog.only_bind (Prog.only_lift _) fun text => ?_
    exact Prog.only_bind (Prog.only_require _ _) fun _ => trivial

/-! The gestures. -/

/-- A gesture in a turn. Of its outcome nothing is said. -/
abbrev Runs {α : Type} (origin : String) (browser : Browser N) (gesture : Gesture)
    (ends : Except JsError α → TabWorld N → TabWorld N → Prop) (body : Tab α) (start now : TabWorld N) : Prop :=
  body.Acts (exec browser) instant Later (Told origin browser gesture) ends start now

variable {gesture : Gesture} {α β : Type} {start now : TabWorld N}

/-- A turn may end anywhere, as far as it has kept to the order. -/
def Closes (_ : Except JsError α) (start now : TabWorld N) : Prop := Later start now

theorem runs_calm {fact : TabWorld N → Prop} {ends : Except JsError α → TabWorld N → TabWorld N → Prop}
    {body : Tab α} (calm : body.Only Calm) (stable : ∀ state now, Later state now → fact state → fact now)
    (settled : Later start now) (held : fact now)
    (finish : ∀ outcome start now, Later start now → fact now → ends outcome start now) :
    Runs origin browser gesture ends body start now :=
  Prog.acts_only calm calm_later calm_told stable settled held finish

theorem runs_calm_then (fact : TabWorld N → Prop) {body : Tab α} {next : α → Tab β} (calm : body.Only Calm)
    (stable : ∀ state now, Later state now → fact state → fact now) (settled : Later start now) (held : fact now)
    (rest : ∀ value start now, Later start now → fact now →
      Runs origin browser gesture Closes (next value) start now) :
    Runs origin browser gesture Closes (body.bind next) start now := by
  refine Prog.acts_bind body next (runs_calm calm stable settled held ?_)
  intro outcome start now settled held
  cases outcome with
  | ok value => exact rest value start now settled held
  | error error => exact settled

theorem runs_lift_then {outcome : Except JsError α} {next : α → Tab β} (settled : Later start now)
    (rest : ∀ value, outcome = .ok value → Runs origin browser gesture Closes (next value) start now) :
    Runs origin browser gesture Closes ((Prog.lift outcome).bind next) start now := by
  cases outcome with
  | ok value => exact rest value rfl
  | error error => exact settled

/-- An operation within a turn. -/
theorem runs_step_then {op : TabOp} {next : op.Res → Tab β} {value : op.Res} (quick : instant op = true)
    (answer : answerOf browser op now = .ok value)
    (tells : Told origin browser gesture op (.ok value) (exec browser op now).2)
    (rest : Runs origin browser gesture Closes (next value) start (exec browser op now).2) :
    Runs origin browser gesture Closes ((Prog.perform op).bind next) start now :=
  Prog.acts_instant_then quick answer tells rest

theorem runs_op_then {op : TabOp} {next : op.Res → Tab β} {value : op.Res} (quick : instant op = true)
    (calm : Calm op) (settled : Later start now) (answer : answerOf browser op now = .ok value)
    (rest : Later start (exec browser op now).2 →
      Runs origin browser gesture Closes (next value) start (exec browser op now).2) :
    Runs origin browser gesture Closes ((Prog.perform op).bind next) start now := by
  have told : Told origin browser gesture op (exec browser op now).1 (exec browser op now).2 :=
    calm_told op now calm
  rw [show (exec browser op now).1 = .ok value from answer] at told
  exact runs_step_then quick answer told (rest (trans_of Later settled (calm_later op now calm)))

/-- A request, answered in a turn of its own. -/
theorem runs_fetch_then {request : Fetch} {next : Reply → Tab β} (settled : Later start now)
    (tells : ∀ begun, Later now begun → Told origin browser gesture (.fetch request)
      (exec browser (.fetch request) begun).1 (exec browser (.fetch request) begun).2)
    (rest : ∀ reply begun after, Later now begun → Later begun after →
      (⟨.fetch request, .ok reply⟩ : Entry) ∈ after.history →
      Runs origin browser gesture Closes (next reply) begun after) :
    Runs origin browser gesture Closes ((fetch request).bind next) start now := by
  have moved (world : TabWorld N) : Later world (exec browser (.fetch request) world).2 := same_later rfl
  refine Prog.acts_await_then rfl settled tells ?_ fun begun error _ _ => moved begun
  intro begun reply after answer
  refine rest reply begun _ after (moved begun) ?_
  have entry : (⟨.fetch request, answerOf browser (.fetch request) begun⟩ : Entry) ∈
      (exec browser (.fetch request) begun).2.history :=
    List.mem_append_right _ (List.mem_singleton_self _)
  rwa [show answerOf browser (.fetch request) begun = .ok reply from answer] at entry

/-! Operations that move the pair or the token. -/

def after (browser : Browser N) (ops : List TabOp) (world : TabWorld N) : TabWorld N :=
  ops.foldl (fun world op => (exec browser op world).2) world

/-- A drawn pair is stored. -/
theorem pair_stored (world : TabWorld N) (drawn drawn' : Verifier)
    (member : (⟨.randomValues 32, .ok drawn⟩ : Entry) ∈ world.history)
    (drew : answerOf browser (.randomValues 32) world = .ok drawn') :
    Later world (after browser [.randomValues 32, .setItem "lehen_pkce_verifier" (b64urlEncode drawn.val),
        .setItem "lehen_pkce_state" (b64urlEncode drawn'.val)] world) ∧
      Begun (b64urlEncode drawn.val) (b64urlEncode drawn'.val)
        (after browser [.randomValues 32, .setItem "lehen_pkce_verifier" (b64urlEncode drawn.val),
          .setItem "lehen_pkce_state" (b64urlEncode drawn'.val)] world).history := by
  have history : (after browser [.randomValues 32,
      .setItem "lehen_pkce_verifier" (b64urlEncode drawn.val),
      .setItem "lehen_pkce_state" (b64urlEncode drawn'.val)] world).history =
      world.history ++ pairEntries drawn drawn' := by
    simp only [after, List.foldl_cons, List.foldl_nil, exec, drew, List.append_assoc, List.cons_append,
      List.nil_append, pairEntries]
    rfl
  have begun : Begun (b64urlEncode drawn.val) (b64urlEncode drawn'.val)
      (world.history ++ pairEntries drawn drawn') :=
    ⟨drawn, drawn', world.history, [], rfl, rfl, member, (List.append_nil _).symm⟩
  rw [← history] at begun
  refine ⟨⟨history ▸ List.prefix_append _ _, fun sound => ⟨.inr ⟨_, _, ?_, ?_, begun⟩, ?_⟩⟩, begun⟩
  · simp only [after, List.foldl_cons, List.foldl_nil, exec, sessionAfter]
    rw [AList.lookup_insert_ne (by decide), AList.lookup_insert]
  · simp only [after, List.foldl_cons, List.foldl_nil, exec, sessionAfter]
    rw [AList.lookup_insert]
  · intro token kept
    simp only [after, List.foldl_cons, List.foldl_nil, exec, sessionAfter] at kept
    rw [AList.lookup_insert_ne (by decide), AList.lookup_insert_ne (by decide)] at kept
    exact granted_later (history ▸ List.prefix_append _ _) (sound.bearer token kept)

/-- The pair is removed. -/
theorem pair_removed (world : TabWorld N) : Later world
    (after browser [.removeItem "lehen_pkce_verifier", .removeItem "lehen_pkce_state"] world) := by
  have grows : world.history <+: (after browser [.removeItem "lehen_pkce_verifier",
      .removeItem "lehen_pkce_state"] world).history :=
    (history_grows _ _).trans (history_grows _ _)
  refine ⟨grows, fun sound => ⟨.inl ⟨?_, ?_⟩, fun token kept => ?_⟩⟩
  · simp only [after, List.foldl_cons, List.foldl_nil, exec, sessionAfter]
    rw [AList.lookup_erase_ne (by decide), AList.lookup_erase]
  · simp only [after, List.foldl_cons, List.foldl_nil, exec, sessionAfter]
    rw [AList.lookup_erase]
  · simp only [after, List.foldl_cons, List.foldl_nil, exec, sessionAfter] at kept
    rw [AList.lookup_erase_ne (by decide), AList.lookup_erase_ne (by decide)] at kept
    exact granted_later grows (sound.bearer token kept)

/-- A token that was granted is stored. -/
theorem token_stored (world : TabWorld N) (token : String) (granted : Granted token world.history) :
    Later world (exec browser (.setItem "lehen_access_token" token) world).2 := by
  have grows : world.history <+: (exec browser (.setItem "lehen_access_token" token) world).2.history :=
    history_grows _ world
  refine ⟨grows, fun sound => ⟨?_, fun other kept => ?_⟩⟩
  · have pair := pair_later grows sound.pair
    unfold PairKept at pair ⊢
    rw [exec, sessionAfter]
    rwa [AList.lookup_insert_ne (by decide), AList.lookup_insert_ne (by decide)]
  · rw [exec, sessionAfter, AList.lookup_insert] at kept
    exact granted_later grows (Option.some.inj kept ▸ granted)

theorem token_removed (world : TabWorld N) :
    Later world (exec browser (.removeItem "lehen_access_token") world).2 := by
  have grows : world.history <+: (exec browser (.removeItem "lehen_access_token") world).2.history :=
    history_grows _ world
  refine ⟨grows, fun sound => ⟨?_, fun other kept => ?_⟩⟩
  · have pair := pair_later grows sound.pair
    unfold PairKept at pair ⊢
    rw [exec, sessionAfter]
    rwa [AList.lookup_erase_ne (by decide), AList.lookup_erase_ne (by decide)]
  · rw [exec, sessionAfter, AList.lookup_erase] at kept
    cases kept

theorem cleared (world : TabWorld N) : Later world (exec browser .clear world).2 :=
  ⟨history_grows _ _, fun _ => ⟨.inl ⟨rfl, rfl⟩, fun _ kept => by cases kept⟩⟩

/-! The gestures. -/

theorem runs_random_then {next : String → Tab β} (settled : Later start now)
    (rest : ∀ (drawn : Verifier) after, Later start after →
      (⟨.randomValues 32, .ok drawn⟩ : Entry) ∈ after.history →
      Runs origin browser gesture Closes (next (b64urlEncode drawn.val)) start after) :
    Runs origin browser gesture Closes (randomVerifier.bind next) start now := by
  unfold randomVerifier
  rw [Prog.bind_eq, Prog.bind_assoc]
  refine runs_op_then rfl trivial settled rfl fun settled' => ?_
  exact rest _ _ settled' (List.mem_append_right _ (List.mem_singleton_self _))

theorem runs_start_login (role : SpaRole) (settled : Later start now) :
    Runs origin browser gesture Closes (startLogin origin role) start now := by
  unfold startLogin
  refine runs_calm_then (fun _ => True) calm_auth_config (fun _ _ _ _ => trivial) settled trivial ?_
  intro cfg start now settled _
  refine runs_calm_then (fun _ => True) (calm_well_known role cfg) (fun _ _ _ _ => trivial) settled trivial ?_
  intro wk start now settled _
  refine runs_random_then settled fun drawn after' settled member => ?_
  refine Prog.acts_await_then rfl settled (fun _ _ => trivial) ?_ fun _ _ _ answer => by cases answer
  intro begun challengeBytes moved answer
  obtain rfl := Except.ok.inj answer
  have kept : Later begun (exec browser (.digest (b64urlEncode drawn.val)) begun).2 := calm_later _ _ trivial
  have member' := (trans_of Later moved kept).history.subset member
  generalize (exec browser (.digest (b64urlEncode drawn.val)) begun).2 = paused at kept member'
  -- The state is drawn and stored with the verifier in one turn.
  obtain ⟨drawn', drew⟩ : ∃ drawn', answerOf browser (.randomValues 32) paused = .ok drawn' := ⟨_, rfl⟩
  obtain ⟨stored, pair⟩ := pair_stored paused drawn drawn' member' drew
  unfold randomVerifier
  rw [Prog.bind_eq, Prog.bind_eq, Prog.bind_assoc]
  refine runs_step_then rfl drew trivial ?_
  refine runs_step_then rfl rfl trivial ?_
  refine runs_step_then rfl rfl trivial ?_
  have settled' := trans_of Later kept stored
  refine runs_lift_then settled' fun clientId _ => runs_lift_then settled' fun endpoint _ => ?_
  refine Prog.acts_instant_then rfl rfl ?_ (trans_of Later settled' (same_later rfl))
  exact ⟨_, _, begun_later (history_grows _ _) pair, rfl, rfl⟩

theorem read_ok {γ : Type} {outcome : Except String γ} {value : γ}
    (read : (outcome.mapError fun text => ({ message := text } : JsError)) = .ok value) : outcome = .ok value := by
  cases outcome with
  | error text => cases read
  | ok own => exact congrArg _ (Except.ok.inj read)

theorem runs_show_error {text : String} (settled : Later start now) :
    Runs origin browser gesture Closes
      ((Prog.perform (TabOp.showError text)).bind fun _ => .ret false) start now :=
  runs_op_then rfl trivial settled rfl fun settled => settled

/-- What the answer of an exchange is good for. -/
theorem runs_keep_tokens {role : SpaRole} {exchange : Exchange} {reply : Reply}
    (member : (⟨.fetch (.exchange exchange), .ok reply⟩ : Entry) ∈ now.history) (settled : Later start now) :
    Runs origin browser gesture Closes (keepTokens role reply) start now := by
  unfold keepTokens
  split
  · exact runs_lift_then settled fun text _ => runs_show_error settled
  · next fine =>
      refine runs_lift_then settled fun tokens read => runs_lift_then settled fun value found => ?_
      have granted : Granted (textOf value) now.history :=
        ⟨.exchange exchange, reply, tokens, value, member, Bool.of_not_eq_false fine,
          .inl ⟨exchange, rfl, read_ok read⟩, found, rfl⟩
      refine runs_step_then rfl rfl trivial ?_
      have settled : Later start (exec browser (.setItem "lehen_access_token" (textOf value)) now).2 :=
        trans_of Later settled (token_stored now (textOf value) granted)
      refine runs_lift_then settled fun refreshToken _ => ?_
      have rest {now : TabWorld N} (settled : Later start now) : Runs origin browser gesture Closes
          ((removeItem "lehen_pkce_verifier").bind fun _ => (removeItem "lehen_pkce_state").bind fun _ =>
            (navigate (.page (homePath role))).bind fun _ => .ret true) start now := by
        refine runs_step_then rfl rfl trivial (runs_step_then rfl rfl trivial ?_)
        exact runs_op_then rfl trivial (trans_of Later settled (pair_removed now)) rfl fun settled => settled
      rw [Prog.when]
      split
      · have calm : ("lehen_refresh_token" : String) ∉ tabKeys := by decide
        exact runs_op_then rfl calm settled rfl fun settled => rest settled
      · exact rest settled

/-- What a callback may redeem once its state was found to be the stored one. -/
theorem redeems_stored {world : TabWorld N} {state : Option String} (sound : Sound world)
    (own : state = world.session.items.lookup "lehen_pkce_state") :
    Redeems state ((world.session.items.lookup "lehen_pkce_verifier").getD "null") world.history := by
  rcases sound.pair with ⟨missing, missing'⟩ | ⟨verifier, stored, present, present', begun⟩
  · exact .inr ⟨own.trans missing', by rw [missing, Option.getD_none]⟩
  · exact .inl ⟨stored, own.trans present', by rwa [present, Option.getD_some]⟩

theorem runs_handle_callback {role : SpaRole} {code state : Option String}
    (callback : gesture = .callback role code state) (settled : Later start now) (sound : Sound now) :
    Runs origin browser gesture Closes (handleCallback origin role code state) start now := by
  unfold handleCallback
  cases present : given code with
  | none => exact settled
  | some text =>
      obtain ⟨same, filled⟩ := Option.filter_eq_some_iff.mp present
      rw [decide_eq_true_iff] at filled
      refine runs_op_then rfl trivial settled rfl fun settled => ?_
      split
      · exact runs_show_error settled
      · next matched =>
          have quiet : Later now (exec browser (.getItem "lehen_pkce_state") now).2 := same_later rfl
          have redeems := redeems_stored sound (not_not.mp matched)
          refine runs_op_then rfl trivial settled rfl fun settled => ?_
          have quiet' : Later now (exec browser (.getItem "lehen_pkce_verifier")
              (exec browser (.getItem "lehen_pkce_state") now).2).2 := trans_of Later quiet (same_later rfl)
          have held := redeems_later quiet'.history redeems
          have stable : ∀ before after : TabWorld N, Later before after →
              Redeems state ((now.session.items.lookup "lehen_pkce_verifier").getD "null") before.history →
              Redeems state ((now.session.items.lookup "lehen_pkce_verifier").getD "null") after.history :=
            fun before after later => redeems_later later.history
          refine runs_calm_then _ calm_auth_config stable settled held ?_
          intro cfg start now settled held
          refine runs_calm_then _ (calm_well_known role cfg) stable settled held ?_
          intro wk start now settled held
          refine runs_lift_then settled fun clientId _ => runs_lift_then settled fun endpoint _ => ?_
          refine runs_fetch_then settled (fun begun later => ?_) fun reply begun after _ moved member =>
            runs_keep_tokens member moved
          refine ⟨role, text, state, callback.trans (by rw [same]), filled, rfl, rfl, ?_⟩
          exact redeems_later (later.history.trans (history_grows _ _)) held

theorem runs_sign_out (settled : Later start now) :
    Runs origin browser gesture Closes signOut start now :=
  runs_step_then rfl rfl trivial
    (Prog.acts_instant_then rfl rfl trivial (trans_of Later (trans_of Later settled (cleared now)) (same_later rfl)))

theorem runs_local_admin_login {username password : String} (settled : Later start now) :
    Runs origin browser gesture Closes (localAdminLogin username password) start now := by
  unfold localAdminLogin
  refine runs_fetch_then settled (fun _ _ => trivial) fun reply start now _ settled member => ?_
  refine runs_lift_then settled fun text read => ?_
  rw [Prog.bind_eq, Prog.require]
  split
  · next fine =>
      refine runs_lift_then settled fun value found => ?_
      have granted : Granted (textOf value) now.history :=
        ⟨_, reply, parsed text, value, member, fine, .inr ⟨username, password, text, rfl, read_ok read, rfl⟩,
          found, rfl⟩
      refine runs_step_then rfl rfl trivial (Prog.acts_instant_then rfl rfl trivial ?_)
      exact trans_of Later (trans_of Later settled (token_stored now (textOf value) granted)) (same_later rfl)
  · exact settled

theorem runs_login (role : SpaRole) (settled : Later start now) :
    Runs origin browser gesture Closes (login origin role) start now := by
  cases role with
  | admin =>
      refine Prog.acts_handle _ _ (Prog.acts_bind _ _ ?_)
      refine runs_calm calm_auth_config (fun _ _ _ _ => trivial) settled trivial ?_
      intro outcome start now settled _
      cases outcome with
      | ok value => exact settled
      | error error => exact settled
  | edge => exact runs_start_login .edge settled

theorem runs_init_home (role : SpaRole) (settled : Later start now) :
    Runs origin browser gesture Closes (initHome origin role) start now := by
  unfold initHome
  refine runs_op_then rfl trivial settled rfl fun settled => ?_
  split
  · exact runs_login role settled
  · refine Prog.acts_handle _ _ ?_
    have calm : (Prog.forEach (homeRequests role) fun url => Prog.drop (fetchJSON url)).Only Calm :=
      Prog.only_forEach fun url => Prog.only_bind (calm_fetch_json url) fun _ => trivial
    refine runs_calm calm (fun _ _ _ _ => trivial) settled trivial ?_
    intro outcome start now settled _
    cases outcome with
    | ok value => exact settled
    | error error =>
        dsimp only
        split
        · refine runs_step_then rfl rfl trivial ?_
          exact runs_login role (trans_of Later settled (token_removed now))
        · exact Prog.acts_instant_then rfl rfl trivial (trans_of Later settled (same_later rfl))

theorem runs_serve (settled : Later start now) (sound : Sound now) :
    Runs origin browser gesture Closes (serve origin gesture) start now := by
  cases gesture with
  | home role => exact runs_init_home role settled
  | callback role code state =>
      refine Prog.acts_bind _ _ (Prog.acts_mono (runs_handle_callback rfl settled sound) ?_)
      intro outcome start now settled
      cases outcome with
      | ok value => exact settled
      | error error => exact settled
  | ssoLogin => exact runs_start_login .admin settled
  | localLogin username password => exact runs_local_admin_login settled
  | signOut => exact runs_sign_out settled

end Serving

/-! The tab. -/

abbrev TabPool (N : Type) := Schedule.Pool (TabWorld N) Gesture TabOp TabOp.Res JsError Unit

/-- A tab that was just opened. -/
def opened (state : N) : TabWorld N := ⟨⟨∅, ∅⟩, state, []⟩

theorem opened_sound (state : N) : Sound (opened state) := ⟨.inl ⟨rfl, rfl⟩, fun _ kept => by cases kept⟩

/-- Whatever is loaded, clicked and called back in a tab, in whatever order the answers
arrive, and whichever of them never do since the page is gone: an exchange presents the
verifier that was stored with the state of its callback, or the text `null` for a callback
without a state; and the token of the tab is one that it was answered with. -/
theorem sign_ins_sound (origin : String) (browser : Browser N) (state : N)
    (events : List (Schedule.Event Gesture)) :
    (∀ task ∈ ((⟨opened state, []⟩ : TabPool N).play (exec browser) instant (serve origin) events).tasks,
      ∀ entry ∈ task.log, Told origin browser task.request entry.1 entry.2
        ((⟨opened state, []⟩ : TabPool N).play (exec browser) instant (serve origin) events).state) ∧
      Sound ((⟨opened state, []⟩ : TabPool N).play (exec browser) instant (serve origin) events).state := by
  have orderly : ((⟨opened state, []⟩ : TabPool N).play (exec browser) instant (serve origin) events).Orderly
      (exec browser) instant Later (Told origin browser) (fun _ _ _ => True) (opened state) := by
    refine Schedule.play_orderly told_lasting _ events ?_ ⟨refl_of Later _, fun i task found => ?_⟩
    · intro gesture _ world later
      refine Prog.rests_of_acts fun begun later' => ?_
      have sound := later'.sound (later.sound (opened_sound state))
      refine Prog.acts_mono (runs_serve (refl_of Later begun) sound) ?_
      exact fun outcome start now closes => ⟨closes, fun _ _ => trivial⟩
    · rw [List.getElem?_nil] at found
      cases found
  constructor
  · intro task member
    obtain ⟨i, found⟩ := List.getElem?_of_mem member
    exact (orderly.tasks i task found).logged
  · exact orderly.onward.sound (opened_sound state)

end Lehen.SignIn
