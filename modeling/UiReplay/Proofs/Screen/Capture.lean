import Mathlib.Data.List.Nodup
import Mathlib.Data.List.Pairwise
import UiReplay.Proofs.Json.AnyOrder
import UiReplay.Selector.Generator

/-!
# Two ways to capture an element

An element is captured from a node, or from a record of attributes.  A record that decodes as a node
can be captured in both ways.  They read the same attributes, each by spellings of its own, and they
agree unless the record has an attribute that a node does not know (`Element.ofNode_eq_ofValue`).

A record that decodes has no field twice, so at most one spelling of a field is there
(`Decode.eq_of_fieldName?_eq`).  If there is one, the field decodes to what stands under this
spelling, and if there is none, the node has the default (`Decode.view_eq_firstOf`).  What is left
is to compare how the two read one value.
-/

namespace UiReplay

variable {σ α : Type}

/-- The first result among equal values. -/
theorem findSome?_of_forall_eq {β : Type} {read : α → Option β} {vs : List α} {v : α} (h : v ∈ vs)
    (same : ∀ w ∈ vs, w = v) : vs.findSome? read = read v := by
  cases hv : read v with
  | none =>
      refine List.findSome?_eq_none_iff.mpr fun w hw => ?_
      rw [same w hw, hv]
  | some b =>
      cases vs with
      | nil => cases h
      | cons w rest => rw [List.findSome?_cons, same w List.mem_cons_self, hv]

namespace Decode

variable {fields : List (Field σ)} {members : List (String × Document)} {f : Field σ}

/-! ## One spelling -/

/-- Two members of one field are the same. -/
theorem eq_of_fieldName?_eq (nodup : (named fields members).Nodup) {m n : String × Document}
    (hm : m ∈ members) (hn : n ∈ members) {name : String}
    (field : fieldName? fields m.1 = some name) (field' : fieldName? fields n.1 = some name) :
    m = n := by
  by_contra differ
  rw [named, List.Nodup, List.pairwise_filterMap] at nodup
  have symmetric : Std.Symm fun m n : String × Document =>
      ∀ b, fieldName? fields m.1 = some b → ∀ b', fieldName? fields n.1 = some b' → b ≠ b' :=
    ⟨fun _ _ h b hb b' hb' => (h b' hb' b hb).symm⟩
  exact nodup.forall hm hn differ name field name field' rfl

/-- A field of a record is read by reading a value, and no other field touches what it sets. -/
structure Reads (fields : List (Field σ)) (f : Field σ) (view : σ → Option α)
    (read : Json → Option α) : Prop where
  stored : ∀ {v : Json}, v.Ordered → ∀ {r r' : σ}, f.store v.document r = .ok r' → view r' = read v
  others : ∀ g ∈ fields, g.name ≠ f.name → ∀ a, g.Keeps fun r => view r = a

/-- A field that sets what no other field touches. -/
theorem reads_withDefault {β : Type} {name : String} {aliases : List String} {decode : Decoder β}
    {set : β → σ → σ} {get : σ → β} {means : β → Option α} {read : Json → Option α}
    (gets : ∀ b r, get (set b r) = b)
    (setBy : ∀ g ∈ fields, g.name ≠ name → ∀ b, g.Keeps fun r => get r = b)
    (alike : ∀ {v : Json}, v.Ordered → ∀ {b : β}, decode v.document = .ok b → means b = read v) :
    Reads fields (.withDefault name aliases decode set) (fun r => means (get r)) read where
  stored ordered r r' stored := by
    obtain ⟨b, hb, rfl⟩ := Field.store_withDefault stored
    rw [gets, alike ordered hb]
  others g hg differ a d r r' stored before := by
    have kept : get r' = get r := setBy g hg differ (get r) d r r' stored rfl
    show means (get r') = a
    rw [kept]
    exact before

/-- Among some spellings are all that a field has, and the others are absent from a record. -/
structure Spells (fields : List (Field σ)) (f : Field σ) (spellings : List String)
    (attributes : List (String × Json)) : Prop where
  all : ∀ key ∈ f.name :: f.aliases, key ∈ spellings
  only : ∀ key ∈ spellings,
    fieldName? fields key = some f.name ∨ Fields.find? key attributes = none

variable {attributes : List (String × Json)} {view : σ → Option α} {read : Json → Option α}
  {spellings : List String} {kind : String} {start r : σ}

/-- A field with a value is set to what the value reads as. -/
theorem view_eq_of_mem (ordered : (Json.record attributes).Ordered)
    (reads : Reads fields f view read)
    (decoded : record kind fields start (Json.record attributes).document = .ok r) {key : String}
    {v : Json} (mem : (key, v) ∈ attributes)
    (spelled : fields.find? (·.hasSpelling key) = some f) : view r = read v := by
  obtain ⟨seen, hvisit⟩ := visit_of_record decoded
  refine visit_puts (P := fun r => view r = read v) (Json.mem_documentFields mem) spelled ?_ ?_
    hvisit
  · exact reads.stored ((Json.ordered_record.mp ordered).2 _ mem)
  · exact fun g hg differ => reads.others g hg differ _

/-- A field with a value has it under one spelling. -/
theorem firstOf_eq_of_mem (ordered : (Json.record attributes).Ordered)
    (spells : Spells fields f spellings attributes)
    (decoded : record kind fields start (Json.record attributes).document = .ok r) {key : String}
    {v : Json} (mem : (key, v) ∈ attributes)
    (spelled : fields.find? (·.hasSpelling key) = some f) :
    Element.firstOf read attributes spellings = read v := by
  have ascending := (Json.ordered_record.mp ordered).1
  obtain ⟨-, nodup, -⟩ := record_eq_ok_iff.mp decoded
  have found : Fields.find? key attributes = some v := Fields.find?_of_mem ascending mem
  apply findSome?_of_forall_eq
  · have spelling : f.name = key ∨ key ∈ f.aliases :=
      Field.hasSpelling_iff.mp (by simpa using List.find?_some spelled)
    have among : key ∈ spellings := spells.all key (by simpa [eq_comm] using spelling)
    exact List.mem_filterMap.mpr ⟨key, among, found⟩
  · intro w hw
    obtain ⟨key', among, found'⟩ := List.mem_filterMap.mp hw
    have named' := (spells.only key' among).resolve_right (by rw [found']; simp)
    have same : (key', w.document) = (key, v.document) :=
      eq_of_fieldName?_eq nodup (Json.mem_documentFields (Fields.mem_of_find? found'))
        (Json.mem_documentFields mem) named' (by rw [fieldName?, spelled]; rfl)
    obtain ⟨rfl, -⟩ := Prod.mk.inj same
    exact Option.some.inj (found'.symm.trans found)

/-- What a field was set to is the first value that is found under its spellings, and nothing if
there is none. -/
theorem view_eq_firstOf (distinct : (fields.map Field.name).Nodup) (known : f ∈ fields)
    (ordered : (Json.record attributes).Ordered) (reads : Reads fields f view read)
    (spells : Spells fields f spellings attributes) (blank : view start = none)
    (decoded : record kind fields start (Json.record attributes).document = .ok r) :
    view r = Element.firstOf read attributes spellings := by
  by_cases present : ∃ m ∈ attributes, fieldName? fields m.1 = some f.name
  · obtain ⟨⟨key, v⟩, mem, hname⟩ := present
    obtain ⟨g, spelled, same⟩ := Option.map_eq_some_iff.mp hname
    obtain rfl : g = f :=
      List.inj_on_of_nodup_map distinct (List.mem_of_find?_eq_some spelled) known same
    rw [view_eq_of_mem ordered reads decoded mem spelled,
      firstOf_eq_of_mem ordered spells decoded mem spelled]
  · -- the default is kept, and nothing is found
    have absent : spellings.filterMap (fun key => Fields.find? key attributes) = [] := by
      refine List.filterMap_eq_nil_iff.mpr fun key among => ?_
      refine (spells.only key among).elim (fun hname => ?_) id
      refine Option.eq_none_iff_forall_ne_some.mpr fun v found => ?_
      exact present ⟨(key, v), Fields.mem_of_find? found, hname⟩
    rw [Element.firstOf, absent]
    refine (record_eq_ok_iff.mp decoded).1.keeps (P := fun r => view r = none) ?_ blank
    intro m hm g spelled
    rw [Json.documentFields_eq_map] at hm
    obtain ⟨entry, mem, rfl⟩ := List.mem_map.mp hm
    refine reads.others g (List.mem_of_find?_eq_some spelled) (fun same => ?_) none
    refine present ⟨entry, mem, ?_⟩
    rw [fieldName?, spelled, Option.map_some, same]

end Decode

/-! ## The fields of a node -/

namespace Node

variable {β : Type} {child : Decoder Node}

/-- Only the field with a name touches an attribute of a node. -/
def IsSetBy (child : Decoder Node) (get : Node → β) (name : String) : Prop :=
  ∀ f ∈ recordFields child, f.name ≠ name → ∀ b, f.Keeps fun n => get n = b

theorem isSetBy_recordFields (child : Decoder Node) :
    IsSetBy child index "index" ∧ IsSetBy child text "text" ∧
      IsSetBy child className "className" ∧ IsSetBy child resourceId "resourceId" ∧
      IsSetBy child contentDesc "contentDescription" ∧ IsSetBy child bounds "bounds" := by
  refine ⟨?_, ?_, ?_, ?_, ?_, ?_⟩
  all_goals
    intro f hf differ b
    simp only [recordFields, List.mem_cons, List.not_mem_nil, or_false] at hf
    rcases hf with rfl | rfl | rfl | rfl | rfl | rfl | rfl | rfl
    all_goals first | exact absurd rfl differ | exact Field.keeps_withDefault fun _ _ _ _ h => h

theorem nodup_recordFields (child : Decoder Node) :
    ((recordFields child).map Field.name).Nodup := by
  show List.Nodup ["index", "text", "className", "resourceId", "contentDescription", "bounds",
    "clickable", "children"]
  decide

end Node

namespace Element

/-! ## One value read in two ways -/

/-- A text, with the empty one in place of nothing, is read as an attribute is. -/
theorem nonBlank_of_decode {v : Json} {s : String}
    (h : Decode.orDefault "" Decode.text v.document = .ok s) :
    Text.nonBlank s = attributeText? v := by
  cases v <;> cases h <;> rfl

theorem bind_position?_of_decode {v : Json} {i : Option Int}
    (h : Decode.nullable Decode.int64 v.document = .ok i) :
    i.bind position? = attributeIndex? v := by
  cases v with
  | null =>
      cases h
      rfl
  | integer j =>
      have h : (Decode.int64 (.integer j)).map some = .ok i := h
      rw [Decode.int64, Decode.integerIn] at h
      split at h
      · cases h
        rfl
      · cases h
  | _ => cases h

theorem parse?_noneText : Rect.parse? Rect.noneText = none := by decide +kernel

theorem parse?_of_boundsText {v : Json} (ordered : v.Ordered) {s : String}
    (h : Node.boundsText v.document = .ok s) :
    Rect.parse? s = (Rect.textOf? v).bind Rect.parse? := by
  rw [Node.boundsText, Decode.value, Json.value?_document ordered] at h
  cases h
  show Rect.parse? ((Rect.textOf? v).getD Rect.noneText) = _
  cases Rect.textOf? v with
  | some t => rfl
  | none => exact parse?_noneText

/-! ## Spellings of two kinds -/

/-- The spellings of attributes that a node does not know. -/
def extraSpellings : List String :=
  ["id", "description", "boundsInScreen", "childIndex", "child_index"]

example : ((resourceSpellings ++ descriptionSpellings ++ textSpellings ++ classSpellings ++
      boundsSpellings ++ indexSpellings).filter fun key =>
    (Decode.fieldName? (Node.recordFields fun _ => .error .unreadable) key).isNone) =
      extraSpellings := by decide

/-- The spellings of an attribute are those of a field of a node, and extra ones. -/
def IsSpelledBy (child : Decoder Node) (name : String) (spellings : List String) : Prop :=
  ∀ key ∈ spellings,
    Decode.fieldName? (Node.recordFields child) key = some name ∨ key ∈ extraSpellings

theorem isSpelledBy_recordFields (child : Decoder Node) :
    IsSpelledBy child "index" indexSpellings ∧ IsSpelledBy child "text" textSpellings ∧
      IsSpelledBy child "className" classSpellings ∧
      IsSpelledBy child "resourceId" resourceSpellings ∧
      IsSpelledBy child "contentDescription" descriptionSpellings ∧
      IsSpelledBy child "bounds" boundsSpellings := by
  simp [IsSpelledBy, Decode.fieldName?, Node.recordFields, Field.withDefault, Field.hasSpelling,
    extraSpellings, indexSpellings, textSpellings, classSpellings, resourceSpellings,
    descriptionSpellings, boundsSpellings]

section
variable {attributes : List (String × Json)} {child : Decoder Node} {n : Node} {kind : String}
  (ordered : (Json.record attributes).Ordered)
  (plain : ∀ key ∈ extraSpellings, Fields.find? key attributes = none)
  (decoded : Decode.record kind (Node.recordFields child) {} (Json.record attributes).document =
    .ok n)
include ordered plain decoded

/-- An attribute of a node is captured alike if its values are read alike. -/
theorem means_eq_firstOf {β : Type} {name : String} {aliases spellings : List String}
    {decode : Decoder β} {set : β → Node → Node} {get : Node → β} (means : β → Option α)
    {read : Json → Option α}
    (field : (Node.recordFields child).find? (·.hasSpelling name) =
      some (.withDefault name aliases decode set))
    (spelledBy : IsSpelledBy child name spellings) (all : ∀ key ∈ name :: aliases, key ∈ spellings)
    (gets : ∀ b n, get (set b n) = b) (setBy : Node.IsSetBy child get name)
    (alike : ∀ {v : Json}, v.Ordered → ∀ {b : β}, decode v.document = .ok b → means b = read v)
    (blank : means (get {}) = none) : means (get n) = firstOf read attributes spellings := by
  have reads : Decode.Reads (Node.recordFields child) (.withDefault name aliases decode set)
      (fun n => means (get n)) read := Decode.reads_withDefault gets setBy alike
  have spells : Decode.Spells (Node.recordFields child) (.withDefault name aliases decode set)
      spellings attributes :=
    ⟨all, fun key among => (spelledBy key among).imp_right (plain key)⟩
  have same := Decode.view_eq_firstOf (Node.nodup_recordFields child)
    (List.mem_of_find?_eq_some field) ordered reads spells blank decoded
  exact same

/-- A text of a node is captured alike. -/
theorem nonBlank_eq_firstOf {name : String} {aliases spellings : List String}
    {set : String → Node → Node} {get : Node → String}
    (field : (Node.recordFields child).find? (·.hasSpelling name) =
      some (.withDefault name aliases (Decode.orDefault "" Decode.text) set))
    (spelledBy : IsSpelledBy child name spellings) (all : ∀ key ∈ name :: aliases, key ∈ spellings)
    (gets : ∀ s n, get (set s n) = s) (setBy : Node.IsSetBy child get name)
    (blank : get {} = "") :
    Text.nonBlank (get n) = firstOf attributeText? attributes spellings :=
  means_eq_firstOf ordered plain decoded Text.nonBlank field spelledBy all gets setBy
    (fun _ _ => nonBlank_of_decode) ((congrArg Text.nonBlank blank).trans rfl)

/-- The element that a node is has the attributes that its record describes. -/
theorem ofNode_eq_ofAttributes : ofNode n = ofAttributes attributes := by
  obtain ⟨index, text, className, resourceId, contentDesc, bounds⟩ :=
    Node.isSetBy_recordFields child
  obtain ⟨index', text', className', resourceId', contentDesc', bounds'⟩ :=
    isSpelledBy_recordFields child
  rw [ofNode, ofAttributes, Element.mk.injEq]
  refine ⟨?id, ?description, ?label, ?type, ?rect, ?position⟩
  case id =>
    exact nonBlank_eq_firstOf ordered plain decoded rfl resourceId' (by decide) (fun _ _ => rfl)
      resourceId rfl
  case description =>
    exact nonBlank_eq_firstOf ordered plain decoded rfl contentDesc' (by decide) (fun _ _ => rfl)
      contentDesc rfl
  case label =>
    exact nonBlank_eq_firstOf ordered plain decoded rfl text' (by decide) (fun _ _ => rfl) text rfl
  case type =>
    exact nonBlank_eq_firstOf ordered plain decoded rfl className' (by decide) (fun _ _ => rfl)
      className rfl
  case rect =>
    exact means_eq_firstOf ordered plain decoded Rect.parse? rfl bounds' (by decide)
      (fun _ _ => rfl) bounds (fun ordered _ => parse?_of_boundsText ordered) parse?_noneText
  case position =>
    exact means_eq_firstOf ordered plain decoded (fun i => i.bind position?) rfl index' (by decide)
      (fun _ _ => rfl) index (fun _ _ => bind_position?_of_decode) rfl

end

/-- A record that decodes as a node and has no attribute that a node does not know is captured alike
as a node and as a record of attributes.  So both ways lead to the same chain.  The names of a
record ascend, as they do in every value that is read. -/
theorem ofNode_eq_ofValue {attributes : List (String × Json)} {n : Node}
    (ordered : (Json.record attributes).Ordered)
    (plain : ∀ key ∈ extraSpellings, Fields.find? key attributes = none)
    (decoded : Node.decode (Json.record attributes).document = .ok n) :
    ofNode n = ofValue (.record attributes) ∧
      ∀ g : Generator, g.generate (ofNode n) = g.generate (ofValue (.record attributes)) := by
  have decoded : Decode.record "AccessibilityNode" (Node.recordFields _) {}
      (Json.record attributes).document = .ok n := decoded
  have same : ofNode n = ofValue (.record attributes) :=
    ofNode_eq_ofAttributes ordered plain decoded
  exact ⟨same, fun g => congrArg g.generate same⟩

/-- The edges of a button. -/
def buttonEdges : List (String × Json) :=
  [("bottom", .integer 40), ("left", .integer 0), ("right", .integer 100), ("top", .integer 8)]

/-- A button whose rectangle is a record of edges, and whose attributes have other spellings. -/
def buttonAttributes : List (String × Json) :=
  [("bounds", .record buttonEdges), ("class", .text "android.widget.Button"),
    ("content-desc", .null), ("index", .integer 3), ("resource_id", .text "a:id/ok"),
    ("text", .text " ")]

theorem ordered_buttonAttributes : (Json.record buttonAttributes).Ordered := by
  refine Json.ordered_record.mpr ⟨?_, fun f hf => ?_⟩
  · unfold Fields.Ascending buttonAttributes
    decide
  · simp only [buttonAttributes, List.mem_cons, List.not_mem_nil, or_false] at hf
    rcases hf with rfl | rfl | rfl | rfl | rfl | rfl
    · refine Json.ordered_record.mpr ⟨?_, by simp [buttonEdges, Json.Ordered]⟩
      unfold Fields.Ascending buttonEdges
      decide
    all_goals trivial

theorem ofNode_eq_ofValue_button :
    (Json.record buttonAttributes).Ordered ∧
      (∀ key ∈ extraSpellings, Fields.find? key buttonAttributes = none) ∧
      ∃ n, Node.decode (Json.record buttonAttributes).document = .ok n ∧
        ofNode n = ofValue (.record buttonAttributes) ∧
        ofValue (.record buttonAttributes) =
          { resourceId := some "a:id/ok", className := some "android.widget.Button",
            bounds := some ⟨0, 8, 100, 40⟩, childIndex := some 3 } := by
  have plain : ∀ key ∈ extraSpellings, Fields.find? key buttonAttributes = none := by
    simp [extraSpellings, buttonAttributes, Fields.find?]
  have decodes : (Node.decode (Json.record buttonAttributes).document).isOk = true := by
    decide +kernel
  cases decoded : Node.decode (Json.record buttonAttributes).document with
  | error fault =>
      rw [decoded] at decodes
      cases decodes
  | ok n =>
      exact ⟨ordered_buttonAttributes, plain, n, rfl,
        (ofNode_eq_ofValue ordered_buttonAttributes plain decoded).1, by decide +kernel⟩

end Element

end UiReplay
