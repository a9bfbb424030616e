import UiReplay.Json.Value

/-!
# Ordered values

In a value the names of a record ascend, at every depth.  `Json.Ordered` says this, since a
list of fields could also be out of order.  Whatever a document gives is ordered
(`ordered_of_value?`), and an ordered value that is written down is given back
(`value?_document`).
-/

namespace UiReplay

/-! ## Fields -/

namespace Fields

variable {α : Type} {name : String} {value : α} {fields : List (String × α)}

theorem find?_append (name : String) (a b : List (String × α)) :
    find? name (a ++ b) = (find? name a).or (find? name b) := by
  induction a with
  | nil => rfl
  | cons f rest ih =>
      obtain ⟨k, v⟩ := f
      by_cases h : k = name
      · simp [find?, h]
      · simp [find?, h, ih]

theorem mem_of_find? (h : find? name fields = some value) : (name, value) ∈ fields := by
  induction fields with
  | nil => cases h
  | cons f rest ih =>
      obtain ⟨k, w⟩ := f
      rw [find?] at h
      split at h
      · next hk =>
          cases h
          exact hk ▸ List.mem_cons_self
      · exact List.mem_cons_of_mem _ (ih h)

theorem ne_of_find?_eq_none (h : find? name fields = none) : ∀ f ∈ fields, f.1 ≠ name := by
  induction fields with
  | nil => exact fun f hf => by cases hf
  | cons f rest ih =>
      obtain ⟨k, w⟩ := f
      rw [find?] at h
      split at h
      · cases h
      · next hk =>
          intro g hg
          rcases List.mem_cons.mp hg with rfl | hg
          · exact hk
          · exact ih h g hg

theorem find?_of_mem (ascending : Ascending fields) (h : (name, value) ∈ fields) :
    find? name fields = some value := by
  induction fields with
  | nil => cases h
  | cons f rest ih =>
      obtain ⟨k, w⟩ := f
      obtain ⟨below, ascending⟩ := List.pairwise_cons.mp ascending
      rw [find?]
      rcases List.mem_cons.mp h with h | h
      · cases h
        exact if_pos rfl
      · have hne : k ≠ name := Std.ne_of_lt (below _ h)
        rw [if_neg hne]
        exact ih ascending h

theorem Ascending.nodup (ascending : Ascending fields) : (fields.map Prod.fst).Nodup :=
  List.pairwise_map.mpr (ascending.imp Std.ne_of_lt)

/-- Setting a field does not change what is left of fields when its name is left out. -/
theorem filter_insert {p : String → Bool} (h : p name = false) :
    (insert name value fields).filter (fun f => p f.1) = fields.filter fun f => p f.1 := by
  induction fields with
  | nil => simp [insert, h]
  | cons f rest ih =>
      obtain ⟨k, w⟩ := f
      rw [insert]
      split
      · next hk => simp [hk, h]
      · split
        · simp [h]
        · simp [List.filter_cons, ih]

/-- A name above all others goes to the end. -/
theorem insert_of_above (h : ∀ f ∈ fields, f.1 < name) :
    insert name value fields = fields ++ [(name, value)] := by
  induction fields with
  | nil => rfl
  | cons f rest ih =>
      obtain ⟨k, v⟩ := f
      have hk : k < name := h (k, v) List.mem_cons_self
      have hne : k ≠ name := Std.ne_of_lt hk
      have hnlt : ¬ name < k := fun hlt => String.lt_irrefl k (String.lt_trans hk hlt)
      rw [insert, if_neg hne, if_neg hnlt, ih fun f hf => h f (List.mem_cons_of_mem _ hf)]
      rfl

/-- Ascending fields are set one after the other, each at the end. -/
theorem foldl_insert_of_ascending {acc : List (String × α)} (h : Ascending (acc ++ fields)) :
    fields.foldl (fun acc f => insert f.1 f.2 acc) acc = acc ++ fields := by
  induction fields generalizing acc with
  | nil => exact (List.append_nil _).symm
  | cons f rest ih =>
      have above : ∀ g ∈ acc, g.1 < f.1 := fun g hg =>
        (List.pairwise_append.mp h).2.2 g hg f List.mem_cons_self
      have h' : Ascending ((acc ++ [f]) ++ rest) := by
        rwa [List.append_assoc, List.singleton_append]
      rw [List.foldl_cons, insert_of_above above, ih h', List.append_assoc, List.singleton_append]

theorem map_insert {β : Type} (g : α → β) :
    (insert name value fields).map (fun f => (f.1, g f.2)) =
      insert name (g value) (fields.map fun f => (f.1, g f.2)) := by
  induction fields with
  | nil => rfl
  | cons f rest ih =>
      obtain ⟨k, w⟩ := f
      rw [List.map_cons, insert, insert]
      split
      · rfl
      · split
        · rfl
        · rw [List.map_cons, ih]

theorem ofList_of_ascending (h : Ascending fields) : ofList fields = fields :=
  foldl_insert_of_ascending h

/-- Values can be changed before or after the fields are set. -/
theorem map_foldl_insert {β : Type} (g : α → β) {acc : List (String × α)} :
    (fields.foldl (fun acc f => insert f.1 f.2 acc) acc).map (fun f => (f.1, g f.2)) =
      (fields.map fun f => (f.1, g f.2)).foldl (fun acc f => insert f.1 f.2 acc)
        (acc.map fun f => (f.1, g f.2)) := by
  induction fields generalizing acc with
  | nil => rfl
  | cons f rest ih => rw [List.foldl_cons, ih, map_insert, List.map_cons, List.foldl_cons]

/-- The fields before keep their order, and what holds of the values before and of those that
are set holds afterwards. -/
theorem foldl_insert {P : α → Prop} {acc : List (String × α)} (hacc : Ascending acc)
    (pacc : ∀ f ∈ acc, P f.2) (pfields : ∀ f ∈ fields, P f.2) :
    Ascending (fields.foldl (fun acc f => insert f.1 f.2 acc) acc) ∧
      ∀ f ∈ fields.foldl (fun acc f => insert f.1 f.2 acc) acc, P f.2 := by
  induction fields generalizing acc with
  | nil => exact ⟨hacc, pacc⟩
  | cons f rest ih =>
      refine ih (insert_ascending _ _ hacc) ?_ fun g hg => pfields g (List.mem_cons_of_mem _ hg)
      intro g hg
      rcases mem_insert hg with rfl | hg
      · exact pfields f List.mem_cons_self
      · exact pacc g hg

/-- Among fields that are set one after the other the last of one name is found. -/
theorem find?_foldl_insert (name : String) (fields acc : List (String × α)) :
    find? name (fields.foldl (fun acc f => insert f.1 f.2 acc) acc) =
      (find? name fields.reverse).or (find? name acc) := by
  induction fields generalizing acc with
  | nil => rfl
  | cons f rest ih =>
      obtain ⟨k, v⟩ := f
      rw [List.foldl_cons, ih, List.reverse_cons, find?_append, Option.or_assoc]
      congr 1
      by_cases h : k = name
      · subst h
        simp [find?_insert_self, find?]
      · simp [find?_insert_of_ne (Ne.symm h), find?, h]

theorem find?_ofList (name : String) (fields : List (String × α)) :
    find? name (ofList fields) = find? name fields.reverse := by
  rw [ofList, find?_foldl_insert]
  exact Option.or_none

end Fields

/-! ## Values -/

namespace Json

mutual

/-- The names of every record in a value ascend. -/
def Ordered : Json → Prop
  | list items => OrderedItems items
  | record fields => Fields.Ascending fields ∧ OrderedFields fields
  | _ => True

/-- The names of every record in each of some values ascend. -/
def OrderedItems : List Json → Prop
  | [] => True
  | v :: rest => v.Ordered ∧ OrderedItems rest

/-- The names of every record in the value of each of some fields ascend. -/
def OrderedFields : List (String × Json) → Prop
  | [] => True
  | (_, v) :: rest => v.Ordered ∧ OrderedFields rest

end

theorem orderedFields_iff {fields : List (String × Json)} :
    OrderedFields fields ↔ ∀ f ∈ fields, f.2.Ordered := by
  induction fields with
  | nil => simp [OrderedFields]
  | cons f rest ih => simp [OrderedFields, ih]

theorem ordered_record {fields : List (String × Json)} :
    (record fields).Ordered ↔ Fields.Ascending fields ∧ ∀ f ∈ fields, f.2.Ordered := by
  rw [Ordered, orderedFields_iff]

end Json

/-! ## Down and back -/

namespace Json

theorem documentFields_eq_map (fields : List (String × Json)) :
    documentFields fields = fields.map fun f => (f.1, f.2.document) := by
  induction fields with
  | nil => rfl
  | cons f rest ih => rw [documentFields, ih, List.map_cons]

theorem mem_documentFields {fields : List (String × Json)} {name : String} {v : Json}
    (h : (name, v) ∈ fields) : (name, v.document) ∈ documentFields fields := by
  rw [documentFields_eq_map]
  exact List.mem_map.mpr ⟨_, h, rfl⟩

theorem documents_eq_map (items : List Json) : documents items = items.map document := by
  induction items with
  | nil => rfl
  | cons v rest ih => rw [documents, ih, List.map_cons]

theorem documentFields_ofList (fields : List (String × Json)) :
    documentFields (Fields.ofList fields) = Fields.ofList (documentFields fields) := by
  rw [documentFields_eq_map, documentFields_eq_map, Fields.ofList, Fields.map_foldl_insert]
  rfl

end Json

mutual

/-- An ordered value that is written down is given back. -/
theorem Json.value?_document : ∀ {v : Json}, v.Ordered → v.document.value? = some v
  | .null, _ | .bool _, _ | .integer _, _ | .double _, _ | .text _, _ => rfl
  | .list items, h => by
      rw [Json.document, Document.value?, Json.values?_documents h]
      rfl
  | .record fields, h => by
      rw [Json.document, Document.value?, Json.valueFields?_documentFields h.2, Option.map_some,
        Fields.ofList_of_ascending h.1]

theorem Json.values?_documents : ∀ {items : List Json}, Json.OrderedItems items →
    Document.values? (Json.documents items) = some items
  | [], _ => rfl
  | v :: rest, h => by
      rw [Json.documents, Document.values?, Json.value?_document h.1,
        Json.values?_documents h.2]

theorem Json.valueFields?_documentFields : ∀ {fields : List (String × Json)},
    Json.OrderedFields fields → Document.valueFields? (Json.documentFields fields) = some fields
  | [], _ => rfl
  | (k, v) :: rest, h => by
      rw [Json.documentFields, Document.valueFields?, Json.value?_document h.1,
        Json.valueFields?_documentFields h.2]

end

mutual

/-- What a document gives is ordered. -/
theorem Document.ordered_of_value? : ∀ {d : Document} {v : Json}, d.value? = some v → v.Ordered
  | .null, _, h | .bool _, _, h | .integer _, _, h | .double _, _, h | .text _, _, h => by
      cases h
      trivial
  | .single _, _, h => by
      obtain ⟨x, -, rfl⟩ := Option.map_eq_some_iff.mp h
      trivial
  | .list items, _, h => by
      obtain ⟨vs, hvs, rfl⟩ := Option.map_eq_some_iff.mp h
      exact Document.ordered_of_values? hvs
  | .record fields, _, h => by
      obtain ⟨fs, hfs, rfl⟩ := Option.map_eq_some_iff.mp h
      have ordered := Json.orderedFields_iff.mp (Document.ordered_of_valueFields? hfs)
      exact Json.ordered_record.mpr
        (Fields.foldl_insert List.Pairwise.nil (fun f hf => by cases hf) ordered)

theorem Document.ordered_of_values? : ∀ {items : List Document} {vs : List Json},
    Document.values? items = some vs → Json.OrderedItems vs
  | [], _, h => by
      cases h
      trivial
  | d :: rest, _, h => by
      rw [Document.values?] at h
      split at h
      · next hv hvs =>
          cases h
          exact ⟨Document.ordered_of_value? hv, Document.ordered_of_values? hvs⟩
      · cases h

theorem Document.ordered_of_valueFields? : ∀ {fields : List (String × Document)}
    {vs : List (String × Json)}, Document.valueFields? fields = some vs → Json.OrderedFields vs
  | [], _, h => by
      cases h
      trivial
  | (k, d) :: rest, _, h => by
      rw [Document.valueFields?] at h
      split at h
      · next hv hvs =>
          cases h
          exact ⟨Document.ordered_of_value? hv, Document.ordered_of_valueFields? hvs⟩
      · cases h

end

namespace Document

/-- Fields that all have values have them name by name, by induction on the fields before. -/
theorem exists_valueFields? {fields : List (String × Document)}
    (h : ∀ f ∈ fields, f.2.value?.isSome = true) :
    ∃ vs, valueFields? fields = some vs ∧
      ∀ name, Fields.find? name vs.reverse = (Fields.find? name fields.reverse).bind value? := by
  induction fields with
  | nil => exact ⟨[], rfl, fun name => rfl⟩
  | cons f rest ih =>
      obtain ⟨k, d⟩ := f
      have hrest := fun f hf => h f (List.mem_cons_of_mem _ hf)
      obtain ⟨vs, hvs, find⟩ := ih hrest
      obtain ⟨v, hv⟩ := Option.isSome_iff_exists.mp (h _ List.mem_cons_self)
      refine ⟨(k, v) :: vs, by rw [valueFields?, hv, hvs], fun name => ?_⟩
      rw [List.reverse_cons, List.reverse_cons, Fields.find?_append, Fields.find?_append, find]
      cases hname : Fields.find? name rest.reverse with
      | none =>
          by_cases hk : k = name
          · simp [Fields.find?, hk, hv]
          · simp [Fields.find?, hk]
      | some e =>
          have mem := List.mem_reverse.mp (Fields.mem_of_find? hname)
          obtain ⟨w, hw⟩ := Option.isSome_iff_exists.mp (hrest _ mem)
          simp only [Option.bind_some, hw, Option.some_or]

/-- A record whose fields all have values has them, of two of one name the last. -/
theorem value?_record {fields : List (String × Document)}
    (h : ∀ f ∈ fields, f.2.value?.isSome = true) :
    ∃ fs, (Document.record fields).value? = some (.record fs) ∧
      ∀ name, Fields.find? name fs = (Fields.find? name fields.reverse).bind value? := by
  obtain ⟨vs, hvs, find⟩ := exists_valueFields? h
  refine ⟨Fields.ofList vs, ?_, fun name => ?_⟩
  · rw [value?, hvs]
    rfl
  · rw [Fields.find?_ofList, find]

end Document

end UiReplay
