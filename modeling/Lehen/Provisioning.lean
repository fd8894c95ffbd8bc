import Lehen.SetupRealm

/-!
What the provisioner asks for, whatever the server answers: it creates what the server
did not list, changes what the server listed under a name of the specification, stops at
the first refusal, and comes to its end only with everything settled.
-/

namespace Lehen.Provisioning

open SetupRealm
open Prog (Monitor recording follows_bind follows_mono follows_perform follows_lift)

/-- The requests of a run, each with what came back. -/
abbrev Past := List ((_ : UrlRequest) × Except PyError UrlReply)

/-- What is read of an answer; a conflict shows nothing. -/
def shown (reply : UrlReply) : Json := if reply.isSuccess then reply.payload else .null

/-! What has been answered. -/
section Answers

variable (kc : KC) (past : Past)

/-- The answer of a request that was not refused. -/
def Granted (method path : String) (body : Payload) (reply : UrlReply) : Prop :=
  ⟨kc.request method path body, .ok reply⟩ ∈ past ∧ (reply.isSuccess = true ∨ reply.status = 409)

def Acknowledged (method path : String) (body : Json) : Prop :=
  ∃ reply, Granted kc past method path (.json body) reply

/-- The rows a collection was answered with. -/
def Listing (path : String) (rows : List Json) : Prop :=
  ∃ reply, Granted kc past "GET" path .none reply ∧ rowsOf (shown reply) = .ok rows

/-- A row with this text under the key. -/
def Named (key name : String) (row : Json) : Prop :=
  ∃ fields, row = .obj fields ∧ fields.lookup key = some (.str name)

def Listed (path key name : String) : Prop :=
  ∃ rows, Listing kc past path rows ∧ ∃ row ∈ rows, Named key name row

def Unlisted (path key name : String) : Prop :=
  ∃ rows, Listing kc past path rows ∧ ∀ row ∈ rows, ¬ Named key name row

/-- The id of a row that was listed. -/
def ListedAs (path key name id : String) : Prop :=
  ∃ rows, Listing kc past path rows ∧ ∃ row ∈ rows, Named key name row ∧
    ∃ value, row.getItem "id" = .ok value ∧ value.toStr = id

/-- The object that was answered for a role. -/
def RoleObject (realm role : String) (object : Json) : Prop :=
  ∃ reply, Granted kc past "GET" (rolePath realm role) .none reply ∧ object = shown reply

end Answers

/-! The specification, item by item. -/

def clients : List ClientSpec := [hubSpec, edgeSpec, adminUiSpec]

/-- What has a name and gets an id. -/
inductive Item where
  | role (name : String)
  | user (spec : UserSpec)
  | client (spec : ClientSpec)
  | scope

def items : List Item :=
  realmRoles.map .role ++ users.map .user ++ clients.map .client ++ [.scope]

/-- Where an item is looked up. -/
def Item.search (realm : String) : Item → String
  | .role _ => rolesPath realm
  | .user spec => userSearch realm spec.username
  | .client spec => clientSearch realm spec.clientId
  | .scope => scopesPath realm

def Item.key : Item → String
  | .role _ => "name"
  | .user _ => "username"
  | .client _ => "clientId"
  | .scope => "name"

def Item.name : Item → String
  | .role name => name
  | .user spec => spec.username
  | .client spec => spec.clientId
  | .scope => hubAudienceScope

/-- Where it is created, and as what. -/
def Item.collection (realm : String) : Item → String
  | .role _ => rolesPath realm
  | .user _ => usersPath realm
  | .client _ => clientsPath realm
  | .scope => scopesPath realm

def Item.creation : Item → Json
  | .role name => roleBody name
  | .user spec => newUserBody spec.username userPassword
  | .client spec => .obj spec.fields
  | .scope => scopeBody hubAudienceScope hubAudience

section Rules

variable (kc : KC) (realm : String) (past : Past)

/-- The id is one the server gave: of a row under the name, or of a user that was created. -/
def Known (item : Item) (id : String) : Prop :=
  ListedAs kc past (item.search realm) item.key item.name id ∨
    ∃ spec reply, item = .user spec ∧ reply.status ≠ 409 ∧
      Granted kc past "POST" (usersPath realm) (.json item.creation) reply ∧
      id = lastSegment (location reply.headers)

/-- What may be asked for, after what was answered. -/
inductive Warranted : UrlRequest → Prop where
  | read (rest : String) : Warranted (kc.request "GET" (realmPath realm ++ rest) .none)
  | createRealm (missing : ∃ reply, ⟨kc.request "GET" (realmPath realm) .none, .ok reply⟩ ∈ past ∧
      (shown reply).truthy = false) :
      Warranted (kc.request "POST" "/admin/realms" (.json (realmBody realm)))
  | create (item : Item) (specified : item ∈ items)
      (missing : Unlisted kc past (item.search realm) item.key item.name) :
      Warranted (kc.request "POST" (item.collection realm) (.json item.creation))
  | alignUser (spec : UserSpec) (userId : String) (specified : spec ∈ users)
      (known : Known kc realm past (.user spec) userId) :
      Warranted (kc.request "PUT" (userPath realm userId) (.json (userBody spec.username userId)))
  | setPassword (spec : UserSpec) (userId : String) (specified : spec ∈ users)
      (known : Known kc realm past (.user spec) userId) :
      Warranted (kc.request "PUT" (passwordPath realm userId) (.json (credential userPassword)))
  | assignRoles (spec : UserSpec) (userId : String) (objects : List Json) (specified : spec ∈ users)
      (known : Known kc realm past (.user spec) userId)
      (answered : List.Forall₂ (RoleObject kc past realm) spec.roles objects) :
      Warranted (kc.request "POST" (roleMappingsPath realm userId) (.json (.arr objects)))
  | alignClient (spec : ClientSpec) (internalId : String) (specified : spec ∈ clients)
      (known : Known kc realm past (.client spec) internalId) :
      Warranted (kc.request "PUT" (clientPath realm internalId)
        (.json (.obj (spec.fields ++ [("id", .str internalId)]))))
  | addMapper (scopeId : String) (known : Known kc realm past .scope scopeId)
      (missing : Unlisted kc past (mappersPath realm scopeId) "protocolMapper" audienceMapper) :
      Warranted (kc.request "POST" (mappersPath realm scopeId) (.json (mapperBody hubAudience)))
  | attachScope (spec : ClientSpec) (internalId scopeId : String) (shown : spec ∈ [edgeSpec, adminUiSpec])
      (client : Known kc realm past (.client spec) internalId)
      (scope : Known kc realm past .scope scopeId) :
      Warranted (kc.request "PUT" (defaultScopePath realm internalId scopeId) (.json (.obj [])))

/-- It was answered, and not refused; the realm alone may be missing. -/
def Accepted (exchange : (_ : UrlRequest) × Except PyError UrlReply) : Prop :=
  ∃ reply, exchange.2 = .ok reply ∧ (reply.isSuccess = true ∨ reply.status = 409 ∨
    reply.status = 404 ∧ exchange.1 = kc.request "GET" (realmPath realm) .none)

/-! What is settled. -/

def Present (item : Item) : Prop :=
  Listed kc past (item.search realm) item.key item.name ∨
    Acknowledged kc past "POST" (item.collection realm) item.creation

/-- A user who was there has been brought in line, and either way has the roles. -/
structure UserSettled (spec : UserSpec) : Prop where
  aligned : Acknowledged kc past "POST" (usersPath realm) (newUserBody spec.username userPassword) ∨
    ∃ userId, Known kc realm past (.user spec) userId ∧
      Acknowledged kc past "PUT" (userPath realm userId) (userBody spec.username userId) ∧
      Acknowledged kc past "PUT" (passwordPath realm userId) (credential userPassword)
  roles : ∃ userId objects, Known kc realm past (.user spec) userId ∧
    List.Forall₂ (RoleObject kc past realm) spec.roles objects ∧
    Acknowledged kc past "POST" (roleMappingsPath realm userId) (.arr objects)

/-- A client was created, or one that was there was overwritten. -/
def ClientSettled (spec : ClientSpec) (internalId : String) : Prop :=
  Known kc realm past (.client spec) internalId ∧
    (Acknowledged kc past "POST" (clientsPath realm) (.obj spec.fields) ∨
      Acknowledged kc past "PUT" (clientPath realm internalId)
        (.obj (spec.fields ++ [("id", .str internalId)])))

/-- The scope is there, and something in it fills the audience. -/
structure ScopeSettled (scopeId : String) : Prop where
  known : Known kc realm past .scope scopeId
  mapper : Listed kc past (mappersPath realm scopeId) "protocolMapper" audienceMapper ∨
    Acknowledged kc past "POST" (mappersPath realm scopeId) (mapperBody hubAudience)

structure Provisioned : Prop where
  founded : (∃ reply, Granted kc past "GET" (realmPath realm) .none reply ∧ (shown reply).truthy = true) ∨
    Acknowledged kc past "POST" "/admin/realms" (realmBody realm)
  roles : ∀ role ∈ realmRoles, Present kc realm past (.role role)
  users : ∀ spec ∈ users, UserSettled kc realm past spec
  clients : ∀ spec ∈ clients, ∃ internalId, ClientSettled kc realm past spec internalId
  scope : ∃ scopeId, ScopeSettled kc realm past scopeId ∧
    ∀ spec ∈ [edgeSpec, adminUiSpec], ∃ internalId, Known kc realm past (.client spec) internalId ∧
      Acknowledged kc past "PUT" (defaultScopePath realm internalId scopeId) (.obj [])

end Rules

/-! What was answered stays answered. -/
section Later

variable {kc : KC} {realm : String} {past after : Past}

theorem granted_later (onward : past <+: after) {method path : String} {body : Payload}
    {reply : UrlReply} (granted : Granted kc past method path body reply) :
    Granted kc after method path body reply :=
  ⟨onward.subset granted.1, granted.2⟩

theorem acknowledged_later (onward : past <+: after) {method path : String} {body : Json}
    (acknowledged : Acknowledged kc past method path body) : Acknowledged kc after method path body := by
  obtain ⟨reply, granted⟩ := acknowledged
  exact ⟨reply, granted_later onward granted⟩

theorem listing_later (onward : past <+: after) {path : String} {rows : List Json}
    (listing : Listing kc past path rows) : Listing kc after path rows := by
  obtain ⟨reply, granted, read⟩ := listing
  exact ⟨reply, granted_later onward granted, read⟩

theorem listed_later (onward : past <+: after) {path key name : String}
    (listed : Listed kc past path key name) : Listed kc after path key name := by
  obtain ⟨rows, listing, named⟩ := listed
  exact ⟨rows, listing_later onward listing, named⟩

theorem known_later (onward : past <+: after) {item : Item} {id : String}
    (known : Known kc realm past item id) : Known kc realm after item id := by
  rcases known with ⟨rows, listing, named⟩ | ⟨spec, reply, own, fresh, granted, located⟩
  · exact .inl ⟨rows, listing_later onward listing, named⟩
  · exact .inr ⟨spec, reply, own, fresh, granted_later onward granted, located⟩

theorem objects_later (onward : past <+: after) {roles : List String} {objects : List Json}
    (answered : List.Forall₂ (RoleObject kc past realm) roles objects) :
    List.Forall₂ (RoleObject kc after realm) roles objects := by
  refine answered.imp ?_
  rintro role object ⟨reply, granted, read⟩
  exact ⟨reply, granted_later onward granted, read⟩

theorem present_later (onward : past <+: after) {item : Item} (present : Present kc realm past item) :
    Present kc realm after item :=
  present.imp (listed_later onward) (acknowledged_later onward)

theorem user_later (onward : past <+: after) {spec : UserSpec}
    (settled : UserSettled kc realm past spec) : UserSettled kc realm after spec := by
  constructor
  · rcases settled.aligned with created | ⟨userId, known, body, password⟩
    · exact .inl (acknowledged_later onward created)
    · exact .inr ⟨userId, known_later onward known, acknowledged_later onward body,
        acknowledged_later onward password⟩
  · obtain ⟨userId, objects, known, answered, assigned⟩ := settled.roles
    exact ⟨userId, objects, known_later onward known, objects_later onward answered,
      acknowledged_later onward assigned⟩

theorem client_later (onward : past <+: after) {spec : ClientSpec} {internalId : String}
    (settled : ClientSettled kc realm past spec internalId) :
    ClientSettled kc realm after spec internalId :=
  ⟨known_later onward settled.1, settled.2.imp (acknowledged_later onward) (acknowledged_later onward)⟩

theorem scope_later (onward : past <+: after) {scopeId : String}
    (settled : ScopeSettled kc realm past scopeId) : ScopeSettled kc realm after scopeId :=
  ⟨known_later onward settled.known, settled.mapper.imp (listed_later onward) (acknowledged_later onward)⟩

end Later

/-! Steps of a run. -/
section Steps

variable (kc : KC) (realm : String)

/-- Nothing was refused before, and what was answered warrants the request. -/
def monitor : Monitor UrlRequest (fun _ => UrlReply) PyError Past :=
  recording fun past request =>
    (∀ exchange ∈ past, Accepted kc realm exchange) ∧ Warranted kc realm past request

/-- From a past without a refusal the program asks for what is warranted, and where it
comes to its end there is still none and `post` holds. -/
def Goes {α : Type} (post : α → Past → Prop) (body : Setup α) (past : Past) : Prop :=
  (∀ exchange ∈ past, Accepted kc realm exchange) →
    body.Follows (monitor kc realm) (fun outcome after => ∀ value, outcome = .ok value →
      (∀ exchange ∈ after, Accepted kc realm exchange) ∧ past <+: after ∧ post value after) past

variable {kc realm} {past : Past} {α β γ : Type}

theorem goes_ret {post : α → Past → Prop} {value : α} (held : post value past) :
    Goes kc realm post (.ret value) past := by
  rintro accepted _ ⟨⟩
  exact ⟨accepted, List.prefix_rfl, held⟩

theorem goes_raise {post : α → Past → Prop} {error : PyError} :
    Goes kc realm post (.raise error) past := by
  rintro _ _ ⟨⟩

theorem goes_bind {middle : β → Past → Prop} {post : α → Past → Prop} {body : Setup β}
    {next : β → Setup α} (first : Goes kc realm middle body past)
    (rest : ∀ value after, past <+: after → middle value after → Goes kc realm post (next value) after) :
    Goes kc realm post (body.bind next) past := by
  intro accepted
  refine Prog.follows_then (first accepted) ?_ fun _ _ _ _ same => by cases same
  intro value between reached
  obtain ⟨accepted', onward, held⟩ := reached value rfl
  refine follows_mono (rest value between onward held accepted') ?_
  intro outcome after ended last same
  obtain ⟨accepted'', onward', held'⟩ := ended last same
  exact ⟨accepted'', onward.trans onward', held'⟩

theorem goes_mono {strong weak : α → Past → Prop} {body : Setup α} (goes : Goes kc realm strong body past)
    (weaker : ∀ value after, past <+: after → strong value after → weak value after) :
    Goes kc realm weak body past := by
  intro accepted
  refine follows_mono (goes accepted) ?_
  intro outcome after ended value same
  obtain ⟨accepted', onward, held⟩ := ended value same
  exact ⟨accepted', onward, weaker value after onward held⟩

theorem goes_lift {post : α → Past → Prop} {outcome : Except PyError α}
    (held : ∀ value, outcome = .ok value → post value past) :
    Goes kc realm post (Prog.lift outcome) past := by
  cases outcome with
  | ok value => exact goes_ret (held value rfl)
  | error error => exact goes_raise

theorem goes_lift_then {post : α → Past → Prop} {outcome : Except PyError β} {next : β → Setup α}
    (rest : ∀ value, outcome = .ok value → Goes kc realm post (next value) past) :
    Goes kc realm post ((Prog.lift outcome).bind next) past := by
  cases outcome with
  | ok value => exact rest value rfl
  | error error => exact goes_raise

theorem goes_when {fact : Past → Prop} {condition : Prop} [Decidable condition] {body : Setup α}
    (done : condition → Goes kc realm (fun _ => fact) body past) (skip : ¬ condition → fact past) :
    Goes kc realm (fun _ => fact) (Prog.when condition body) past := by
  unfold Prog.when
  split
  · next holds => exact goes_bind (done holds) fun _ _ _ held => goes_ret held
  · next fails => exact goes_ret (skip fails)

theorem goes_forEach {items : List γ} {body : γ → Setup Unit} {fact : γ → Past → Prop}
    (stays : ∀ item before after, before <+: after → fact item before → fact item after)
    (each : ∀ item ∈ items, ∀ after, past <+: after → Goes kc realm (fun _ => fact item) (body item) after) :
    Goes kc realm (fun _ after => ∀ item ∈ items, fact item after) (Prog.forEach items body) past := by
  induction items generalizing past with
  | nil => exact goes_ret fun _ member => absurd member List.not_mem_nil
  | cons item rest ih =>
      apply goes_bind (each item List.mem_cons_self past List.prefix_rfl)
      intro _ between onward held
      have others := ih (fun other member after onward' =>
        each other (List.mem_cons_of_mem _ member) after (onward.trans onward'))
      refine goes_mono others ?_
      intro _ after onward' all other member
      rcases List.mem_cons.mp member with rfl | later
      · exact stays other between after onward' held
      · exact all other later

/-! Requests. -/

theorem answered_shown {method path : String} {reply : UrlReply} {answer : Answer}
    (same : answered method path false reply = .ok answer) :
    (reply.isSuccess = true ∨ reply.status = 409) ∧
      answer = ⟨reply.status, shown reply, reply.headers⟩ := by
  unfold answered at same
  unfold shown
  split at same
  · next success =>
      rw [if_pos success]
      exact ⟨.inl success, (Except.ok.inj same).symm⟩
  · next refused =>
      rw [if_neg refused]
      split at same
      · next absent => cases absent.2
      · split at same
        · next conflict => exact ⟨.inr conflict, (Except.ok.inj same).symm⟩
        · cases same

theorem accepted_onward {last : (_ : UrlRequest) × Except PyError UrlReply}
    (accepted : ∀ exchange ∈ past, Accepted kc realm exchange) (passed : Accepted kc realm last) :
    ∀ exchange ∈ past ++ [last], Accepted kc realm exchange := by
  intro exchange there
  rcases List.mem_append.mp there with earlier | own
  · exact accepted exchange earlier
  · rw [List.mem_singleton.mp own]
    exact passed

theorem goes_req {method path : String} {body : Payload}
    (warranted : Warranted kc realm past (kc.request method path body)) :
    Goes kc realm (fun answer after => ∃ reply, Granted kc after method path body reply ∧
      answer = ⟨reply.status, shown reply, reply.headers⟩) (kc.req method path body) past := by
  intro accepted
  apply Prog.follows_perform_then
  · exact ⟨accepted, warranted⟩
  · intro reply
    rw [follows_lift]
    intro answer same
    obtain ⟨granted, read⟩ := answered_shown same
    have member : (⟨kc.request method path body, .ok reply⟩ : (_ : UrlRequest) × Except PyError UrlReply) ∈
        past ++ [⟨kc.request method path body, .ok reply⟩] := by simp
    exact ⟨accepted_onward accepted ⟨reply, rfl, granted.imp_right .inl⟩, List.prefix_append _ _, reply,
      ⟨member, granted⟩, read⟩
  · exact fun _ _ same => by cases same

theorem goes_get (rest : String) {path : String} (inside : path = realmPath realm ++ rest) :
    Goes kc realm (fun payload after => ∃ reply, Granted kc after "GET" path .none reply ∧
      payload = shown reply) (kc.get path) past := by
  subst inside
  apply goes_bind (goes_req (.read rest))
  rintro answer after _ ⟨reply, granted, rfl⟩
  exact goes_ret ⟨reply, granted, rfl⟩

theorem goes_post {path : String} {body : Json}
    (warranted : Warranted kc realm past (kc.request "POST" path (.json body))) :
    Goes kc realm (fun answer after => ∃ reply, Granted kc after "POST" path (.json body) reply ∧
      answer = ⟨reply.status, shown reply, reply.headers⟩) (kc.post path body) past :=
  goes_req warranted

theorem goes_put {path : String} {body : Json}
    (warranted : Warranted kc realm past (kc.request "PUT" path (.json body))) :
    Goes kc realm (fun _ after => Acknowledged kc after "PUT" path body) (kc.put path body) past := by
  apply goes_bind (goes_req warranted)
  rintro answer after _ ⟨reply, granted, _⟩
  exact goes_ret ⟨reply, granted⟩

/-- The one request that may find nothing. -/
theorem goes_get_realm :
    Goes kc realm (fun payload after => ∃ reply,
        ⟨kc.request "GET" (realmPath realm) .none, .ok reply⟩ ∈ after ∧ payload = shown reply ∧
          (payload.truthy = true → Granted kc after "GET" (realmPath realm) .none reply))
      (kc.get (realmPath realm) true) past := by
  intro accepted
  unfold KC.get KC.req
  rw [Prog.bind_eq, Prog.bind_eq, Prog.bind_assoc]
  apply Prog.follows_perform_then
  · refine ⟨accepted, ?_⟩
    have read : Warranted kc realm past (kc.request "GET" (realmPath realm ++ "") .none) := .read ""
    rwa [String.append_empty] at read
  · intro reply
    have member : (⟨kc.request "GET" (realmPath realm) .none, .ok reply⟩ :
        (_ : UrlRequest) × Except PyError UrlReply) ∈
        past ++ [⟨kc.request "GET" (realmPath realm) .none, .ok reply⟩] := by simp
    have onward (passes : reply.isSuccess = true ∨ reply.status = 409 ∨ reply.status = 404) :
        ∀ exchange ∈ past ++ [(⟨kc.request "GET" (realmPath realm) .none, .ok reply⟩ :
          (_ : UrlRequest) × Except PyError UrlReply)], Accepted kc realm exchange :=
      accepted_onward accepted ⟨reply, rfl, passes.imp_right (Or.imp_right fun absent => ⟨absent, rfl⟩)⟩
    apply Prog.follows_lift_then
    · intro answer same value ended
      obtain rfl := Except.ok.inj ended
      unfold answered at same
      split at same
      · next success =>
          obtain rfl := Except.ok.inj same
          refine ⟨onward (.inl success), List.prefix_append _ _, reply, member, ?_, ?_⟩
          · rw [shown, if_pos success]
          · exact fun _ => ⟨member, .inl success⟩
      · next refused =>
          have none : shown reply = .null := if_neg refused
          split at same
          · next absent =>
              obtain rfl := Except.ok.inj same
              exact ⟨onward (.inr (.inr absent.1)), List.prefix_append _ _, reply, member, none.symm,
                fun holds => by cases holds⟩
          · split at same
            · next conflict =>
                obtain rfl := Except.ok.inj same
                exact ⟨onward (.inr (.inl conflict)), List.prefix_append _ _, reply, member, none.symm,
                  fun holds => by cases holds⟩
            · cases same
    · exact fun _ _ _ same => by cases same
  · exact fun _ _ same => by cases same

end Steps

/-! The rows of a listing. -/
section Rows

variable {key name : String}

theorem text_iff (value : Option Json) : isText value name = true ↔ value = some (.str name) := by
  unfold isText
  split
  · next text => simp
  · next other =>
      constructor
      · exact fun same => by cases same
      · exact fun same => absurd same (other name)

theorem get_named {row : Json} {value : Option Json} (same : row.get key = .ok value) :
    isText value name = true ↔ Named key name row := by
  rw [text_iff]
  cases row with
  | obj fields =>
      obtain rfl := Except.ok.inj same
      constructor
      · exact fun found => ⟨fields, rfl, found⟩
      · rintro ⟨_, ⟨⟩, found⟩
        exact found
  | _ => cases same

/-- A search goes through the rows in order. -/
theorem find_row {rows : List Json} {found : Option String} (same : findRow key name rows = .ok found) :
    match found with
    | none => ∀ row ∈ rows, ¬ Named key name row
    | some id => ∃ row ∈ rows, Named key name row ∧ ∃ value, row.getItem "id" = .ok value ∧ value.toStr = id := by
  induction rows with
  | nil =>
      obtain rfl := Except.ok.inj same
      exact fun _ member => absurd member List.not_mem_nil
  | cons row rest ih =>
      rw [findRow] at same
      cases read : row.get key with
      | error error =>
          rw [read] at same
          cases same
      | ok value =>
          rw [read] at same
          simp only [bind, Except.bind] at same
          split at same
          · next hit =>
              have named := (get_named read).mp hit
              cases item : row.getItem "id" with
              | error error =>
                  rw [item] at same
                  cases same
              | ok id =>
                  rw [item] at same
                  obtain rfl := Except.ok.inj same
                  exact ⟨row, List.mem_cons_self, named, id, item, rfl⟩
          · next miss =>
              have other : ¬ Named key name row := fun named => miss ((get_named read).mpr named)
              have onward := ih same
              cases found with
              | none =>
                  intro item member
                  rcases List.mem_cons.mp member with rfl | later
                  · exact other
                  · exact onward item later
              | some id =>
                  obtain ⟨item, member, own⟩ := onward
                  exact ⟨item, List.mem_cons_of_mem _ member, own⟩

theorem any_row {rows : List Json} {found : Bool} (same : anyRow key name rows = .ok found) :
    if found then ∃ row ∈ rows, Named key name row else ∀ row ∈ rows, ¬ Named key name row := by
  induction rows with
  | nil =>
      obtain rfl := Except.ok.inj same
      exact fun _ member => absurd member List.not_mem_nil
  | cons row rest ih =>
      rw [anyRow] at same
      cases read : row.get key with
      | error error =>
          rw [read] at same
          cases same
      | ok value =>
          rw [read] at same
          simp only [bind, Except.bind] at same
          split at same
          · next hit =>
              obtain rfl := Except.ok.inj same
              exact ⟨row, List.mem_cons_self, (get_named read).mp hit⟩
          · next miss =>
              have other : ¬ Named key name row := fun named => miss ((get_named read).mpr named)
              have onward := ih same
              cases found with
              | true =>
                  obtain ⟨item, member, own⟩ := onward
                  exact ⟨item, List.mem_cons_of_mem _ member, own⟩
              | false =>
                  intro item member
                  rcases List.mem_cons.mp member with rfl | later
                  · exact other
                  · exact onward item later

theorem item_named {row value : Json} (same : row.getItem "name" = .ok value) :
    isText (some value) name = true ↔ Named "name" name row := by
  rw [text_iff]
  cases row with
  | obj fields =>
      unfold Json.getItem at same
      cases found : fields.lookup "name" with
      | none =>
          simp only [found] at same
          cases same
      | some held =>
          simp only [found] at same
          obtain rfl := Except.ok.inj same
          constructor
          · exact fun hit => ⟨fields, rfl, found.trans hit⟩
          · rintro ⟨_, ⟨⟩, hit⟩
            exact found.symm.trans hit
  | _ => cases same

theorem names_of {rows names : List Json} (same : namesOf rows = .ok names) :
    (names.any fun value => isText (some value) name) = true ↔ ∃ row ∈ rows, Named "name" name row := by
  induction rows generalizing names with
  | nil =>
      obtain rfl := Except.ok.inj same
      simp
  | cons row rest ih =>
      rw [namesOf] at same
      cases read : row.getItem "name" with
      | error error =>
          rw [read] at same
          cases same
      | ok value =>
          rw [read] at same
          simp only [bind, Except.bind] at same
          split at same
          · cases same
          · cases same
          · cases tail : namesOf rest with
            | error error =>
                rw [tail] at same
                cases same
            | ok others =>
                rw [tail] at same
                obtain rfl := Except.ok.inj same
                rw [List.any_cons, Bool.or_eq_true, item_named read, ih tail, List.exists_mem_cons_iff]

end Rows

/-! The steps of the provisioner. -/
section Provisioner

variable {kc : KC} {realm : String} {past : Past}

theorem goes_find (rest : String) {path key name : String} (inside : path = realmPath realm ++ rest) :
    Goes kc realm (fun found after =>
      match found with
      | none => Unlisted kc after path key name
      | some id => ListedAs kc after path key name id) (findId kc path key name) past := by
  apply goes_bind (goes_get rest inside)
  rintro payload after _ ⟨reply, granted, rfl⟩
  apply goes_lift_then
  intro rows read
  apply goes_lift
  intro found same
  have listing : Listing kc after path rows := ⟨reply, granted, read⟩
  have searched := find_row same
  cases found with
  | none => exact ⟨rows, listing, searched⟩
  | some id => exact ⟨rows, listing, searched⟩

theorem goes_asserted {fact : String → Past → Prop} {found : Option String}
    (held : ∀ id, found = some id → fact id past) : Goes kc realm fact (asserted found) past := by
  cases found with
  | none => exact goes_raise
  | some id => exact goes_ret (held id rfl)

/-- The lookup of an item that has an id. -/
theorem goes_lookup (item : Item) {path : String} (own : path = item.search realm) (rest : String)
    (inside : path = realmPath realm ++ rest) :
    Goes kc realm (fun found after =>
      match found with
      | none => Unlisted kc after (item.search realm) item.key item.name
      | some id => Known kc realm after item id) (findId kc path item.key item.name) past := by
  subst own
  refine goes_mono (goes_find rest inside) ?_
  intro found after _ searched
  cases found with
  | none => exact searched
  | some id => exact .inl searched

theorem goes_realm :
    Goes kc realm (fun _ after =>
      (∃ reply, Granted kc after "GET" (realmPath realm) .none reply ∧ (shown reply).truthy = true) ∨
        Acknowledged kc after "POST" "/admin/realms" (realmBody realm)) (ensureRealm kc realm) past := by
  apply goes_bind goes_get_realm
  rintro payload after _ ⟨reply, member, rfl, granted⟩
  apply goes_when
  · intro missing
    refine goes_mono (goes_post (.createRealm ⟨reply, member, missing⟩)) ?_
    rintro _ _ _ ⟨reply, granted, _⟩
    exact .inr ⟨reply, granted⟩
  · intro there
    have truthy := Bool.eq_true_of_not_eq_false there
    exact .inl ⟨reply, granted truthy, truthy⟩

theorem goes_roles :
    Goes kc realm (fun _ after => ∀ role ∈ realmRoles, Present kc realm after (.role role))
      (ensureRealmRoles kc realm realmRoles) past := by
  have inside : rolesPath realm = realmPath realm ++ "/roles" := rfl
  apply goes_bind (goes_get "/roles" inside)
  rintro payload after _ ⟨reply, granted, rfl⟩
  apply goes_lift_then
  intro rows read
  apply goes_lift_then
  intro names named
  have listing : Listing kc after (rolesPath realm) rows := ⟨reply, granted, read⟩
  apply goes_forEach
  · exact fun role before last further present => present_later further present
  · intro role specified last further
    have listing' := listing_later further listing
    apply goes_when
    · intro absent
      have unlisted : Unlisted kc last (rolesPath realm) "name" role := by
        refine ⟨rows, listing', fun row member own => ?_⟩
        have present := (names_of named).mpr ⟨row, member, own⟩
        rw [absent] at present
        cases present
      have item : Item.role role ∈ items :=
        List.mem_append_left _ (List.mem_append_left _ (List.mem_append_left _ (List.mem_map_of_mem specified)))
      refine goes_mono (goes_post (.create (.role role) item unlisted)) ?_
      rintro _ _ _ ⟨reply, granted, _⟩
      exact .inr ⟨reply, granted⟩
    · intro there
      exact .inl ⟨rows, listing', (names_of named).mp (Bool.eq_true_of_not_eq_false there)⟩

/-! Users. -/

theorem user_search (spec : UserSpec) :
    userSearch realm spec.username =
      realmPath realm ++ ("/users?username=" ++ spec.username ++ "&exact=true") := by
  rw [← String.append_assoc, ← String.append_assoc]
  rfl

theorem user_item {spec : UserSpec} (specified : spec ∈ users) : Item.user spec ∈ items :=
  List.mem_append_left _ (List.mem_append_left _ (List.mem_append_right _ (List.mem_map_of_mem specified)))

theorem goes_created {spec : UserSpec} (specified : spec ∈ users)
    (missing : Unlisted kc past (userSearch realm spec.username) "username" spec.username) :
    Goes kc realm (fun userId after => Known kc realm after (.user spec) userId ∧
        Acknowledged kc after "POST" (usersPath realm) (newUserBody spec.username userPassword))
      (createdUser kc realm spec.username userPassword) past := by
  apply goes_bind (goes_post (.create (.user spec) (user_item specified) missing))
  rintro answer after _ ⟨reply, granted, rfl⟩
  dsimp only
  split
  · -- Somebody else created the user meanwhile: it is looked up again.
    apply goes_bind (goes_lookup (.user spec) rfl _ (user_search spec))
    intro found after' onward searched
    apply goes_asserted
    rintro id rfl
    exact ⟨searched, reply, granted_later onward granted⟩
  · next fresh =>
      exact goes_ret ⟨.inr ⟨spec, reply, rfl, fresh, granted, rfl⟩, reply, granted⟩

theorem goes_aligned {spec : UserSpec} (specified : spec ∈ users) {userId : String}
    (known : Known kc realm past (.user spec) userId) :
    Goes kc realm (fun id after => Known kc realm after (.user spec) id ∧
        Acknowledged kc after "PUT" (userPath realm id) (userBody spec.username id) ∧
        Acknowledged kc after "PUT" (passwordPath realm id) (credential userPassword))
      (alignedUser kc realm spec.username userPassword userId) past := by
  apply goes_bind (goes_put (.alignUser spec userId specified known))
  intro _ after onward body
  have known' := known_later onward known
  apply goes_bind (goes_put (.setPassword spec userId specified known'))
  intro _ after' onward' password
  exact goes_ret ⟨known_later onward' known', acknowledged_later onward' body, password⟩

theorem goes_objects (roles : List String) :
    Goes kc realm (fun objects after => List.Forall₂ (RoleObject kc after realm) roles objects)
      (roleObjects kc realm roles) past := by
  induction roles generalizing past with
  | nil => exact goes_ret .nil
  | cons role rest ih =>
      have inside : rolePath realm role = realmPath realm ++ ("/roles/" ++ role) := by
        rw [← String.append_assoc]
        rfl
      apply goes_bind (goes_get _ inside)
      rintro object after _ ⟨reply, granted, rfl⟩
      apply goes_bind ih
      intro objects after' onward answered
      exact goes_ret (.cons ⟨reply, granted_later onward granted, rfl⟩ answered)

/-- However the user is reached, the id is one the server gave. -/
theorem goes_user_id {spec : UserSpec} (specified : spec ∈ users) :
    Goes kc realm (fun userId after => Known kc realm after (.user spec) userId ∧
      (Acknowledged kc after "POST" (usersPath realm) (newUserBody spec.username userPassword) ∨
        Acknowledged kc after "PUT" (userPath realm userId) (userBody spec.username userId) ∧
          Acknowledged kc after "PUT" (passwordPath realm userId) (credential userPassword)))
      (userIdOf kc realm spec.username userPassword) past := by
  apply goes_bind (goes_lookup (.user spec) rfl _ (user_search spec))
  intro found after _ searched
  cases found with
  | none =>
      refine goes_mono (goes_created specified searched) ?_
      exact fun _ _ _ held => ⟨held.1, .inl held.2⟩
  | some userId =>
      refine goes_mono (goes_aligned specified searched) ?_
      exact fun _ _ _ held => ⟨held.1, .inr held.2⟩

theorem goes_user {spec : UserSpec} (specified : spec ∈ users) :
    Goes kc realm (fun _ after => UserSettled kc realm after spec)
      (ensureUser kc realm spec.username userPassword spec.roles) past := by
  apply goes_bind (goes_user_id specified)
  rintro userId after _ ⟨known, aligned⟩
  apply goes_bind (goes_objects spec.roles)
  intro objects after' onward answered
  have known' := known_later onward known
  have some_role : objects.isEmpty = false := by
    have filled : ∀ spec ∈ users, spec.roles ≠ [] := by decide
    cases objects with
    | nil => exact absurd (List.forall₂_nil_right_iff.mp answered) (filled spec specified)
    | cons _ _ => rfl
  have assigned : Goes kc realm (fun _ last => Acknowledged kc last "POST" (roleMappingsPath realm userId)
      (.arr objects)) (Prog.when (objects.isEmpty = false)
        (kc.post (roleMappingsPath realm userId) (.arr objects))) after' := by
    apply goes_when
    · intro _
      refine goes_mono (goes_post (.assignRoles spec userId objects specified known' answered)) ?_
      rintro _ _ _ ⟨reply, granted, _⟩
      exact ⟨reply, granted⟩
    · exact fun none => absurd some_role none
  apply goes_bind assigned
  intro _ last onward' acknowledged
  have further := onward.trans onward'
  refine goes_ret ⟨?_, userId, objects, known_later onward' known', objects_later onward' answered,
    acknowledged⟩
  rcases aligned with created | ⟨body, password⟩
  · exact .inl (acknowledged_later further created)
  · exact .inr ⟨userId, known_later onward' known', acknowledged_later further body,
      acknowledged_later further password⟩

/-! Clients and the scope. -/

theorem client_search (spec : ClientSpec) :
    clientSearch realm spec.clientId = realmPath realm ++ ("/clients?clientId=" ++ spec.clientId) := by
  rw [← String.append_assoc]
  rfl

theorem client_item {spec : ClientSpec} (specified : spec ∈ clients) : Item.client spec ∈ items :=
  List.mem_append_left _ (List.mem_append_right _ (List.mem_map_of_mem specified))

theorem goes_client {spec : ClientSpec} (specified : spec ∈ clients) :
    Goes kc realm (fun internalId after => ClientSettled kc realm after spec internalId)
      (ensureClient kc realm spec) past := by
  apply goes_bind (goes_lookup (.client spec) rfl _ (client_search spec))
  intro found after _ searched
  cases found with
  | none =>
      apply goes_bind (goes_post (.create (.client spec) (client_item specified) searched))
      rintro answer after' _ ⟨reply, granted, _⟩
      apply goes_bind (goes_lookup (.client spec) rfl _ (client_search spec))
      intro found' last onward' searched'
      apply goes_asserted
      rintro id rfl
      exact ⟨searched', .inl ⟨reply, granted_later onward' granted⟩⟩
  | some internalId =>
      apply goes_bind (goes_put (.alignClient spec internalId specified searched))
      intro _ last onward acknowledged
      exact goes_ret ⟨known_later onward searched, .inr acknowledged⟩

theorem scope_search : scopesPath realm = realmPath realm ++ "/client-scopes" := rfl

theorem goes_scope_id :
    Goes kc realm (fun scopeId after => Known kc realm after .scope scopeId)
      (ensureScope kc realm hubAudienceScope hubAudience) past := by
  apply goes_bind (goes_lookup .scope rfl _ scope_search)
  intro found after _ searched
  cases found with
  | none =>
      have specified : Item.scope ∈ items := List.mem_append_right _ (List.mem_singleton.mpr rfl)
      apply goes_bind (goes_post (.create .scope specified searched))
      intro answer after' _ _
      apply goes_bind (goes_lookup .scope rfl _ scope_search)
      intro found' last _ searched'
      apply goes_asserted
      rintro id rfl
      exact searched'
  | some scopeId => exact goes_ret searched

theorem goes_scope :
    Goes kc realm (fun scopeId after => ScopeSettled kc realm after scopeId)
      (ensureAudienceScope kc realm hubAudienceScope hubAudience) past := by
  apply goes_bind goes_scope_id
  intro scopeId after _ known
  have inside : mappersPath realm scopeId =
      realmPath realm ++ ("/client-scopes/" ++ scopeId ++ "/protocol-mappers/models") := by
    rw [← String.append_assoc, ← String.append_assoc]
    rfl
  apply goes_bind (goes_get _ inside)
  rintro payload after' onward ⟨reply, granted, rfl⟩
  apply goes_lift_then
  intro rows read
  apply goes_lift_then
  intro present searched
  have listing : Listing kc after' (mappersPath realm scopeId) rows := ⟨reply, granted, read⟩
  have known' := known_later onward known
  have rows_named := any_row searched
  have filled : Goes kc realm (fun _ last => Listed kc last (mappersPath realm scopeId) "protocolMapper"
        audienceMapper ∨ Acknowledged kc last "POST" (mappersPath realm scopeId) (mapperBody hubAudience))
      (Prog.when (present = false) (kc.post (mappersPath realm scopeId) (mapperBody hubAudience))) after' := by
    apply goes_when
    · rintro rfl
      refine goes_mono (goes_post (.addMapper scopeId known' ⟨rows, listing, rows_named⟩)) ?_
      rintro _ _ _ ⟨reply, granted, _⟩
      exact .inr ⟨reply, granted⟩
    · intro there
      rw [Bool.eq_true_of_not_eq_false there] at rows_named
      exact .inl ⟨rows, listing, rows_named⟩
  apply goes_bind filled
  intro _ last onward' mapper
  exact goes_ret ⟨known_later onward' known', mapper⟩

/-- The whole specification, one part after the other. -/
theorem goes_provision :
    Goes kc realm (fun _ after => Provisioned kc realm after) (provision kc realm) past := by
  apply goes_bind goes_realm
  intro _ p1 _ founded
  apply goes_bind goes_roles
  intro _ p2 on2 roles
  have settled : Goes kc realm (fun _ after => ∀ spec ∈ users, UserSettled kc realm after spec)
      (Prog.forEach users fun user =>
        (ensureUser kc realm user.username userPassword user.roles).drop) p2 := by
    apply goes_forEach
    · exact fun spec before after onward done => user_later onward done
    · intro spec specified after _
      apply goes_bind (goes_user specified)
      exact fun _ _ _ done => goes_ret done
  apply goes_bind settled
  intro _ p3 on3 settled
  apply goes_bind (goes_client (List.mem_cons_self : hubSpec ∈ clients))
  intro hub p4 on4 hubDone
  apply goes_bind (goes_client (List.mem_cons_of_mem _ List.mem_cons_self : edgeSpec ∈ clients))
  intro edge p5 on5 edgeDone
  apply goes_bind (goes_client
    (List.mem_cons_of_mem _ (List.mem_cons_of_mem _ List.mem_cons_self) : adminUiSpec ∈ clients))
  intro adminUi p6 on6 adminUiDone
  apply goes_bind goes_scope
  intro scopeId p7 on7 scopeDone
  have edgeKnown := known_later (on6.trans on7) edgeDone.1
  have adminUiKnown := known_later on7 adminUiDone.1
  apply goes_bind (goes_put
    (.attachScope edgeSpec edge scopeId List.mem_cons_self edgeKnown scopeDone.known))
  intro _ p8 on8 edgeAttached
  refine goes_mono (goes_put (.attachScope adminUiSpec adminUi scopeId
    (List.mem_cons_of_mem _ List.mem_cons_self) (known_later on8 adminUiKnown)
    (known_later on8 scopeDone.known))) ?_
  intro _ p9 on9 adminUiAttached
  have on59 := on6.trans (on7.trans (on8.trans on9))
  have on39 := on4.trans (on5.trans on59)
  have on29 := on3.trans on39
  constructor
  · rcases founded with ⟨reply, granted, truthy⟩ | created
    · exact .inl ⟨reply, granted_later (on2.trans on29) granted, truthy⟩
    · exact .inr (acknowledged_later (on2.trans on29) created)
  · exact fun role specified => present_later on29 (roles role specified)
  · exact fun spec specified => user_later on39 (settled spec specified)
  · intro spec specified
    simp only [clients, List.mem_cons, List.not_mem_nil, or_false] at specified
    rcases specified with rfl | rfl | rfl
    · exact ⟨hub, client_later (on5.trans on59) hubDone⟩
    · exact ⟨edge, client_later on59 edgeDone⟩
    · exact ⟨adminUi, client_later (on7.trans (on8.trans on9)) adminUiDone⟩
  · refine ⟨scopeId, scope_later (on8.trans on9) scopeDone, ?_⟩
    intro spec shown
    simp only [List.mem_cons, List.not_mem_nil, or_false] at shown
    rcases shown with rfl | rfl
    · exact ⟨edge, known_later (on8.trans on9) edgeKnown, acknowledged_later on9 edgeAttached⟩
    · exact ⟨adminUi, known_later (on8.trans on9) adminUiKnown, adminUiAttached⟩

end Provisioner

/-! `main`. -/
section Main

variable (args : Args)

/-- The token was asked for with these, and answered. -/
structure Begun (baseUrl token : String) (first : (_ : UrlRequest) × Except PyError UrlReply) : Prop where
  base : given args.baseUrl = some baseUrl
  asked : ∃ password, given args.adminPassword = some password ∧
    first.1 = tokenRequest baseUrl args.adminRealm args.adminUser password
  answered : ∃ reply, first.2 = .ok reply ∧ tokenOf reply = .ok token

/-- First comes the request for the token, and all that follows is made with it and warranted
by what was answered since, without a refusal on the way. -/
def Rightful (past : Past) (request : UrlRequest) : Prop :=
  match past with
  | [] => ∃ baseUrl password, given args.baseUrl = some baseUrl ∧ given args.adminPassword = some password ∧
      request = tokenRequest baseUrl args.adminRealm args.adminUser password
  | first :: rest => ∃ baseUrl token, Begun args baseUrl token first ∧
      (∀ exchange ∈ rest, Accepted (.new baseUrl token) args.realm exchange) ∧
      Warranted (.new baseUrl token) args.realm rest request

/-- Everything that is specified was found there or accepted. -/
def Finished (past : Past) : Prop :=
  ∃ baseUrl token first rest, past = first :: rest ∧ Begun args baseUrl token first ∧
    Provisioned (.new baseUrl token) args.realm rest

variable {args}

/-- What goes on behind the token, seen from the beginning. -/
theorem follows_begun {α : Type} {baseUrl token : String}
    {first : (_ : UrlRequest) × Except PyError UrlReply} (begun : Begun args baseUrl token first)
    {body : Setup α} {post : Except PyError α → Past → Prop} {rest : Past}
    (follows : body.Follows (monitor (.new baseUrl token) args.realm) post rest) :
    body.Follows (recording (Rightful args))
      (fun outcome after => ∃ rest, after = first :: rest ∧ post outcome rest) (first :: rest) := by
  induction body generalizing rest with
  | ret value => exact ⟨rest, rfl, follows⟩
  | raise error => exact ⟨rest, rfl, follows⟩
  | await op resume ih =>
      exact ⟨⟨baseUrl, token, begun, follows.1⟩, fun answer => ih answer (follows.2 answer)⟩

variable (args)

theorem main_follows :
    (main args).Follows (recording (Rightful args)) (fun outcome past => outcome = .ok 0 → Finished args past)
      [] := by
  unfold main
  split
  · exact fun same => by cases same
  · next baseUrl base =>
      split
      · exact fun same => by cases same
      · next password secret =>
          refine ⟨⟨baseUrl, password, base, secret, rfl⟩, ?_⟩
          rintro (error | reply)
          · exact fun same => by cases same
          · apply Prog.follows_lift_then
            · intro token read
              have begun : Begun args baseUrl token
                  ⟨tokenRequest baseUrl args.adminRealm args.adminUser password, .ok reply⟩ :=
                ⟨base, ⟨password, secret, rfl⟩, reply, rfl, read⟩
              apply Prog.follows_then (follows_begun begun (goes_provision (by simp)))
              · rintro _ _ ⟨rest, rfl, ended⟩ _
                obtain ⟨_, _, provisioned⟩ := ended () rfl
                exact ⟨baseUrl, token, _, rest, rfl, begun, provisioned⟩
              · exact fun _ _ _ same => by cases same
            · exact fun _ _ same => by cases same

end Main

/-! A server to run it against: it keeps what is posted under the path it is posted to. -/

abbrev Held := List (String × List (String × Json))

def nameIn (fields : List (String × Json)) : String :=
  (["realm", "username", "clientId", "name"].findSome? fun key =>
    match fields.lookup key with
    | some (.str name) => some name
    | _ => none).getD ""

def found (payload : Json) : Except PyError UrlReply := .ok ⟨200, "-", .ok payload, ∅⟩

def keepingServer : Server Held := fun request held =>
  match request.data with
  | .form _ => (found (.obj [("access_token", .str "t")]), held)
  | .none =>
      let path := String.ofList (request.url.toList.takeWhile (· ≠ '?'))
      match held.find? fun entry => entry.1 ++ "/" ++ nameIn entry.2 = path with
      | some entry => (found (.obj entry.2), held)
      | none =>
          if path = "http://kc/admin/realms/lehen" then (.ok ⟨404, "", .error "", ∅⟩, held)
          else (found (.arr ((held.filter fun entry => entry.1 = path).map fun entry => .obj entry.2)), held)
  | .json (.obj fields) =>
      if request.method = "POST" then
        (.ok ⟨201, "", .error "", Dict.ofList [("Location", request.url ++ "/" ++ nameIn fields)]⟩,
          held ++ [(request.url, fields ++ [("id", .str (nameIn fields))])])
      else (.ok ⟨204, "", .error "", ∅⟩, held)
  | .json _ => (.ok ⟨204, "", .error "", ∅⟩, held)

def sampleArgs : Args := { baseUrl := some "http://kc/", adminPassword := some "pw" }

end Lehen.Provisioning
