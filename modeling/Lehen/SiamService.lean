import Lehen.AuditService
import Mathlib.Data.List.Dedup

/-!
`admin/siam_service.py`: the one document that says which roles may connect
which instances. Replacing it runs the cascade it was wired with.
-/

namespace Lehen.SiamService

open Storage OAuth AuditService

def siamId : String := "default"

/-- Role → instance ids, as `_normalize` builds it. -/
abbrev Mapping := List (String × List String)

namespace Mapping

def toJson (mapping : Mapping) : Json :=
  .obj (mapping.map fun entry => (entry.1, .arr (entry.2.map Json.str)))

/-- `mapping.get(role, [])`. -/
def allowed (mapping : Mapping) (role : String) : List String :=
  (mapping.lookup role).getD []

/-- Some role of the mapping lists the instance. -/
def lists (mapping : Mapping) (instanceId : String) : Bool :=
  mapping.any fun entry => decide (instanceId ∈ entry.2)

end Mapping

def stringsOf (items : List Json) : List String :=
  items.filterMap fun item => match item with | .str text => some text | _ => none

/-- `_normalize`: lists only, strings only, no duplicates, sorted. -/
def normalize (mapping : Json) : Mapping :=
  match mapping with
  | .obj fields =>
      (fields.filterMap fun field =>
        match field.2 with
        | .arr items => some (field.1, (stringsOf items).dedup.insertionSort (· ≤ ·))
        | _ => none).insertionSort fun left right => left.1 ≤ right.1
  | _ => []

/-- The mapping the rows of the document give: empty when it was never set. -/
def mappingOf (rows : List SiamRow) : Mapping :=
  match rows.head? with
  | some row => normalize row.mapping
  | none => []

def get : Hub Mapping := do
  let rows ← query (.selectSiam siamId)
  return mappingOf rows

def save (known : Bool) (doc : SiamRow) : Hub Unit :=
  if known then command (.updateSiam siamId doc) else command (.insertSiam doc)

def replace (settings : Settings)
    (cascade : Mapping → Mapping → Option String → Hub Nat)
    (actor : CurrentUser) (mapping : Json) (requestId : Option String := none) : Hub Mapping := do
  let before ← get
  let normalized := normalize mapping
  let updatedAt ← now
  let doc : SiamRow :=
    { id := siamId, mapping := normalized.toJson, updatedBy := actor.username, updatedAt }
  let existing ← query (.selectSiam siamId)
  save (!existing.isEmpty) doc
  let after ← get
  record settings
    { actorSub := actor.sub, actorUsername := actor.username, action := "siam.update"
      targetId := some siamId
      before := some (Dict.ofList [("mapping", before.toJson)])
      after := some (Dict.ofList [("mapping", after.toJson)])
      requestId }
  Prog.when (before ≠ after) (cascade before after requestId)
  return after

theorem lists_of_allowed (mapping : Mapping) (role instanceId : String)
    (member : instanceId ∈ mapping.allowed role) : mapping.lists instanceId := by
  unfold Mapping.allowed at member
  cases found : mapping.lookup role with
  | none => simp [found] at member
  | some ids =>
      rw [found, Option.getD_some] at member
      rw [Mapping.lists, List.any_eq_true]
      have listed : (role, ids) ∈ mapping := by
        have ⟨before, after, same, _⟩ := List.lookup_eq_some_iff.mp found
        rw [same]
        exact List.mem_append_right _ List.mem_cons_self
      exact ⟨(role, ids), listed, decide_eq_true member⟩

/-! A mapping that was written is read back with the same entries. -/

theorem mem_strings (items : List Json) (text : String) :
    text ∈ stringsOf items ↔ Json.str text ∈ items := by
  rw [stringsOf, List.mem_filterMap]
  constructor
  · rintro ⟨item, member, same⟩
    cases item with
    | str other =>
        obtain rfl := Option.some.inj same
        exact member
    | _ => cases same
  · exact fun member => ⟨.str text, member, rfl⟩

theorem lists_normalize (fields : List (String × Json)) (instanceId : String) :
    (normalize (.obj fields)).lists instanceId = true ↔
      ∃ role items, (role, Json.arr items) ∈ fields ∧ Json.str instanceId ∈ items := by
  simp only [Mapping.lists, normalize, List.any_eq_true, List.mem_insertionSort,
    List.mem_filterMap, decide_eq_true_eq]
  constructor
  · rintro ⟨entry, ⟨⟨role, value⟩, member, same⟩, listed⟩
    cases value with
    | arr items =>
        obtain rfl := Option.some.inj same
        simp only [List.mem_insertionSort, List.mem_dedup] at listed
        exact ⟨role, items, member, (mem_strings items instanceId).mp listed⟩
    | _ => cases same
  · rintro ⟨role, items, member, listed⟩
    refine ⟨_, ⟨(role, .arr items), member, rfl⟩, ?_⟩
    simp only [List.mem_insertionSort, List.mem_dedup]
    exact (mem_strings items instanceId).mpr listed

theorem lists_written (mapping : Mapping) (instanceId : String) :
    (normalize mapping.toJson).lists instanceId = mapping.lists instanceId := by
  rw [Bool.eq_iff_iff, Mapping.toJson, lists_normalize, Mapping.lists, List.any_eq_true]
  constructor
  · rintro ⟨role, items, member, listed⟩
    obtain ⟨entry, known, same⟩ := List.mem_map.mp member
    simp only [Prod.mk.injEq, Json.arr.injEq] at same
    rw [← same.2] at listed
    obtain ⟨id, present, sameId⟩ := List.mem_map.mp listed
    obtain rfl := Json.str.inj sameId
    exact ⟨entry, known, decide_eq_true present⟩
  · rintro ⟨entry, known, listed⟩
    exact ⟨entry.1, _, List.mem_map.mpr ⟨entry, known, rfl⟩,
      List.mem_map.mpr ⟨instanceId, of_decide_eq_true listed, rfl⟩⟩

/-- Some role of the mapping, as it was sent, lists the instance. -/
def ListedBy (mapping : Json) (instanceId : String) : Prop :=
  ∃ fields role items, mapping = .obj fields ∧ (role, .arr items) ∈ fields ∧ .str instanceId ∈ items

theorem lists_iff (mapping : Json) (instanceId : String) :
    (normalize mapping).lists instanceId = true ↔ ListedBy mapping instanceId := by
  cases mapping with
  | obj fields =>
      rw [lists_normalize]
      constructor
      · rintro ⟨role, items, member, listed⟩
        exact ⟨fields, role, items, rfl, member, listed⟩
      · rintro ⟨_, role, items, same, member, listed⟩
        obtain rfl := Json.obj.inj same
        exact ⟨role, items, member, listed⟩
  | _ =>
      constructor
      · intro impossible
        cases impossible
      · rintro ⟨_, _, _, same, _⟩
        cases same

end Lehen.SiamService
