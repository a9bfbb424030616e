import Mathlib.Data.List.Perm.Basic
import UiReplay.Proofs.Json.Ordered
import UiReplay.Proofs.Json.Records

/-!
# The members of a record in any order

A record decodes exactly when its members can be stored one after the other, no field comes
twice, and no field that must be there is missing (`Decode.record_eq_ok_iff`).  Members that
belong to no field are passed over.

Fields that set different parts of a record can be set in any order.  So when all fields of a
record *commute*, the order of its members does not matter, and neither do the members that
belong to no field (`Decode.record_ofList`).  A member that is set in addition may stand anywhere
among the others (`Decode.record_of_others`).
-/

namespace UiReplay

variable {σ α : Type}

/-! ## Fields set one after the other -/

namespace Fields

variable {name : String} {value : α} {fields acc : List (String × α)} {p : String → Bool}

/-- A new name is put among the others. -/
theorem insert_perm (h : name ∉ fields.map Prod.fst) :
    (insert name value fields).Perm ((name, value) :: fields) := by
  induction fields with
  | nil => exact .refl _
  | cons f rest ih =>
      obtain ⟨k, w⟩ := f
      simp only [List.map_cons, List.mem_cons, not_or] at h
      rw [insert, if_neg (Ne.symm h.1)]
      split
      · exact .refl _
      · exact ((ih h.2).cons _).trans (.swap ..)

theorem foldl_insert_perm
    (nodup : ((acc ++ fields).filter (fun f => p f.1)).map Prod.fst |>.Nodup) :
    ((fields.foldl (fun acc f => insert f.1 f.2 acc) acc).filter fun f => p f.1).Perm
      ((acc ++ fields).filter fun f => p f.1) := by
  induction fields generalizing acc with
  | nil => rw [List.append_nil]; exact .refl _
  | cons f rest ih =>
      obtain ⟨k, v⟩ := f
      rw [List.foldl_cons]
      cases hk : p k with
      | false =>
          have same : (insert k v acc ++ rest).filter (fun f => p f.1) =
              (acc ++ (k, v) :: rest).filter fun f => p f.1 := by
            simp [List.filter_append, filter_insert hk, hk]
          exact same ▸ ih (same ▸ nodup)
      | true =>
          have new : k ∉ acc.map Prod.fst := by
            intro hmem
            obtain ⟨f, hf, rfl⟩ := List.mem_map.mp hmem
            rw [List.filter_append, List.filter_cons_of_pos (by exact hk), List.map_append,
              List.map_cons, List.nodup_append] at nodup
            exact nodup.2.2 f.1 (List.mem_map.mpr ⟨f, List.mem_filter.mpr ⟨hf, hk⟩, rfl⟩) f.1
              List.mem_cons_self rfl
          have moved : ((insert k v acc ++ rest).filter fun f => p f.1).Perm
              ((acc ++ (k, v) :: rest).filter fun f => p f.1) :=
            (((insert_perm new).append_right rest).trans List.perm_middle.symm).filter _
          exact (ih ((moved.map Prod.fst).nodup_iff.mpr nodup)).trans moved

/-- Fields that are set one after the other keep all of their parts whose names differ. -/
theorem filter_ofList_perm (nodup : (fields.filter (fun f => p f.1)).map Prod.fst |>.Nodup) :
    ((ofList fields).filter fun f => p f.1).Perm (fields.filter fun f => p f.1) := by
  rw [← List.nil_append fields] at nodup ⊢
  exact foldl_insert_perm nodup

end Fields

namespace Decode

variable {fields : List (Field σ)} {members members' : List (String × Document)}
  {seen seen' : List String} {r r' : σ}

/-! ## What it takes to decode a record -/

/-- Members stored one after the other, those that belong to no field passed over. -/
inductive Stores (fields : List (Field σ)) : List (String × Document) → σ → σ → Prop where
  | done {r : σ} : Stores fields [] r r
  | unknown {key : String} {d : Document} {rest : List (String × Document)} {r r' : σ}
      (unspelled : fields.find? (·.hasSpelling key) = none) (more : Stores fields rest r r') :
      Stores fields ((key, d) :: rest) r r'
  | known {key : String} {d : Document} {rest : List (String × Document)} {f : Field σ}
      {r next r' : σ} (spelled : fields.find? (·.hasSpelling key) = some f)
      (stored : f.store d r = .ok next) (more : Stores fields rest next r') :
      Stores fields ((key, d) :: rest) r r'

/-- The name of the field that a member belongs to. -/
def fieldName? (fields : List (Field σ)) (key : String) : Option String :=
  (fields.find? (·.hasSpelling key)).map Field.name

/-- The names of the fields that members belong to. -/
def named (fields : List (Field σ)) (members : List (String × Document)) : List String :=
  members.filterMap fun m => fieldName? fields m.1

theorem named_cons_of_none {key : String} {d : Document} {rest : List (String × Document)}
    (h : fields.find? (·.hasSpelling key) = none) :
    named fields ((key, d) :: rest) = named fields rest := by
  simp [named, fieldName?, h]

theorem named_cons_of_some {key : String} {d : Document} {rest : List (String × Document)}
    {f : Field σ} (h : fields.find? (·.hasSpelling key) = some f) :
    named fields ((key, d) :: rest) = f.name :: named fields rest := by
  simp [named, fieldName?, h]

/-- What it takes to visit members, by induction on the members. -/
theorem visit_eq_ok_iff : visit fields members seen r = .ok (r', seen') ↔
    Stores fields members r r' ∧ (named fields members).Nodup ∧
      (∀ n ∈ named fields members, n ∉ seen) ∧ seen' = (named fields members).reverse ++ seen := by
  induction members generalizing seen r with
  | nil =>
      constructor
      · intro h
        cases h
        exact ⟨.done, List.nodup_nil, by simp [named], rfl⟩
      · rintro ⟨⟨⟩, -, -, rfl⟩
        rfl
  | cons m rest ih =>
      obtain ⟨key, d⟩ := m
      constructor
      · intro h
        rcases visit_cons h with ⟨unspelled, h⟩ | ⟨f, spelled, new, next, stored, h⟩
        · obtain ⟨stores, nodup, fresh, hseen⟩ := ih.mp h
          rw [named_cons_of_none unspelled]
          exact ⟨.unknown unspelled stores, nodup, fresh, hseen⟩
        · obtain ⟨stores, nodup, fresh, hseen⟩ := ih.mp h
          rw [named_cons_of_some spelled]
          refine ⟨.known spelled stored stores, List.nodup_cons.mpr ⟨?_, nodup⟩, ?_, ?_⟩
          · exact fun hmem => fresh _ hmem List.mem_cons_self
          · rintro n (_ | ⟨_, hn⟩)
            · exact new
            · exact fun hmem => fresh n hn (List.mem_cons_of_mem _ hmem)
          · rw [hseen, List.reverse_cons, List.append_assoc, List.singleton_append]
      · rintro ⟨stores, nodup, fresh, hseen⟩
        cases stores with
        | unknown unspelled stores =>
            rw [named_cons_of_none unspelled] at nodup fresh hseen
            rw [visit, unspelled]
            exact ih.mpr ⟨stores, nodup, fresh, hseen⟩
        | known spelled stored stores =>
            rw [named_cons_of_some spelled] at nodup fresh hseen
            obtain ⟨new, nodup⟩ := List.nodup_cons.mp nodup
            rw [visit_of_store spelled (fresh _ List.mem_cons_self) stored]
            refine ih.mpr ⟨stores, nodup, ?_, ?_⟩
            · intro n hn hmem
              rcases List.mem_cons.mp hmem with rfl | hmem
              · exact new hn
              · exact fresh n (List.mem_cons_of_mem _ hn) hmem
            · rw [hseen, List.reverse_cons, List.append_assoc, List.singleton_append]

theorem missing?_eq_none_iff :
    missing? fields seen = none ↔ ∀ f ∈ fields, f.optional = false → f.name ∈ seen := by
  simp [missing?]

/-- What it takes to decode a record. -/
theorem record_eq_ok_iff {kind : String} {start : σ} :
    record kind fields start (.record members) = .ok r ↔
      Stores fields members start r ∧ (named fields members).Nodup ∧
        ∀ f ∈ fields, f.optional = false → f.name ∈ named fields members := by
  have present : ∀ {seen : List String}, seen = (named fields members).reverse ++ [] →
      (missing? fields seen = none ↔
        ∀ f ∈ fields, f.optional = false → f.name ∈ named fields members) := by
    rintro seen rfl
    rw [missing?_eq_none_iff]
    simp
  rw [record]
  constructor
  · intro h
    split at h
    · cases h
    · next r₁ seen hvisit =>
        obtain ⟨stores, nodup, -, hseen⟩ := visit_eq_ok_iff.mp hvisit
        split at h
        · cases h
        · next hmissing =>
            cases h
            exact ⟨stores, nodup, (present hseen).mp hmissing⟩
  · rintro ⟨stores, nodup, required⟩
    rw [visit_eq_ok_iff.mpr ⟨stores, nodup, fun _ _ => List.not_mem_nil, rfl⟩]
    dsimp only
    rw [(present rfl).mpr required]

/-! ## Fields that commute -/

end Decode

/-- Two fields can be stored in either order. -/
def Field.Commutes (f g : Field σ) : Prop :=
  ∀ ⦃d e : Document⦄ ⦃r r₁ r₂ : σ⦄, f.store d r = .ok r₁ → g.store e r₁ = .ok r₂ →
    ∃ r₁', g.store e r = .ok r₁' ∧ f.store d r₁' = .ok r₂

/-- Fields that set different parts of a record commute. -/
theorem Field.commutes_of_set {β : Type} {name name' : String} {aliases aliases' : List String}
    {optional optional' : Bool} {decode : Decoder α} {decode' : Decoder β} {set : α → σ → σ}
    {set' : β → σ → σ} (h : ∀ a b r, set' b (set a r) = set a (set' b r)) :
    Field.Commutes ⟨name, aliases, optional, fun d r => (decode d).map fun a => set a r⟩
      ⟨name', aliases', optional', fun d r => (decode' d).map fun b => set' b r⟩ := by
  intro d e r r₁ r₂ stored stored'
  obtain ⟨a, ha, rfl⟩ := store_eq_ok stored
  obtain ⟨b, hb, rfl⟩ := store_eq_ok stored'
  exact ⟨set' b r, map_of_decode hb r, h a b r ▸ map_of_decode ha (set' b r)⟩

namespace Decode

variable {fields : List (Field σ)} {members members' : List (String × Document)} {r r' : σ}

/-- Fields of different names can be stored in either order. -/
def Commuting (fields : List (Field σ)) : Prop :=
  ∀ f ∈ fields, ∀ g ∈ fields, f.name ≠ g.name → f.Commutes g

/-- Two members of different fields may change places. -/
theorem Stores.swap (commuting : Commuting fields) {m n : String × Document}
    (nodup : (named fields (m :: n :: members)).Nodup)
    (h : Stores fields (m :: n :: members) r r') : Stores fields (n :: m :: members) r r' := by
  cases h with
  | unknown unspelled more =>
      cases more with
      | unknown unspelled' more => exact .unknown unspelled' (.unknown unspelled more)
      | known spelled stored more => exact .known spelled stored (.unknown unspelled more)
  | known spelled stored more =>
      cases more with
      | unknown unspelled more => exact .unknown unspelled (.known spelled stored more)
      | known spelled' stored' more =>
          rw [named_cons_of_some spelled, named_cons_of_some spelled'] at nodup
          have other := List.ne_of_not_mem_cons (List.nodup_cons.mp nodup).1
          obtain ⟨next, stored', stored⟩ := commuting _ (List.mem_of_find?_eq_some spelled) _
            (List.mem_of_find?_eq_some spelled') other stored stored'
          exact .known spelled' stored' (.known spelled stored more)

/-- The members of fields that commute can be stored in any order. -/
theorem Stores.perm (commuting : Commuting fields) (perm : members.Perm members')
    (nodup : (named fields members).Nodup) (h : Stores fields members r r') :
    Stores fields members' r r' := by
  induction perm generalizing r with
  | nil => exact h
  | @cons m _ _ _ ih =>
      have tail : ∀ {ms}, (named fields (m :: ms)).Nodup → (named fields ms).Nodup := by
        intro ms hms
        exact ((List.sublist_cons_self m ms).filterMap _).nodup hms
      cases h with
      | unknown unspelled more => exact .unknown unspelled (ih (tail nodup) more)
      | known spelled stored more => exact .known spelled stored (ih (tail nodup) more)
  | swap m n rest => exact h.swap commuting nodup
  | trans first _ ih ih' =>
      exact ih' ((first.filterMap _).nodup_iff.mp nodup) (ih nodup h)

/-- What the fields of the members keep is kept. -/
theorem Stores.keeps {P : σ → Prop} (h : Stores fields members r r')
    (keeps : ∀ m ∈ members, ∀ f, fields.find? (·.hasSpelling m.1) = some f → f.Keeps P)
    (hr : P r) : P r' := by
  induction h with
  | done => exact hr
  | unknown _ _ ih => exact ih (fun m hm => keeps m (List.mem_cons_of_mem _ hm)) hr
  | known spelled stored _ ih =>
      refine ih (fun m hm => keeps m (List.mem_cons_of_mem _ hm)) ?_
      exact keeps _ List.mem_cons_self _ spelled _ _ _ stored hr

theorem Stores.snoc {key : String} {d : Document} {f : Field σ} {next : σ}
    (h : Stores fields members r r') (spelled : fields.find? (·.hasSpelling key) = some f)
    (stored : f.store d r' = .ok next) : Stores fields (members ++ [(key, d)]) r next := by
  induction h with
  | done => exact .known spelled stored .done
  | unknown unspelled _ ih => exact .unknown unspelled (ih stored)
  | known spelled' stored' _ ih => exact .known spelled' stored' (ih stored)

/-- A record decodes with one more member, wherever it stands, if its field has no member yet. -/
theorem record_of_others (commuting : Commuting fields) {kind : String} {start next : σ}
    {before after : List (String × Document)} {key : String} {d : Document} {f : Field σ}
    (others : record kind fields start (.record (before ++ after)) = .ok r)
    (spelled : fields.find? (·.hasSpelling key) = some f)
    (once : f.name ∉ named fields (before ++ after)) (stored : f.store d r = .ok next) :
    record kind fields start (.record (before ++ (key, d) :: after)) = .ok next := by
  obtain ⟨stores, nodup, required⟩ := record_eq_ok_iff.mp others
  have perm : ((before ++ after) ++ [(key, d)]).Perm (before ++ (key, d) :: after) :=
    (List.perm_append_singleton _ _).trans List.perm_middle.symm
  have last : named fields ((before ++ after) ++ [(key, d)]) =
      named fields (before ++ after) ++ [f.name] := by
    rw [named, List.filterMap_append]
    exact congrArg (named fields (before ++ after) ++ ·) (named_cons_of_some spelled)
  have namedPerm : (named fields (before ++ after) ++ [f.name]).Perm
      (named fields (before ++ (key, d) :: after)) := by
    have moved := perm.filterMap fun m => fieldName? fields m.1
    rw [← named, ← named, last] at moved
    exact moved
  have nodup : (named fields (before ++ after) ++ [f.name]).Nodup :=
    (List.perm_append_singleton _ _).nodup_iff.mpr (List.nodup_cons.mpr ⟨once, nodup⟩)
  refine record_eq_ok_iff.mpr ⟨?_, namedPerm.nodup_iff.mp nodup, ?_⟩
  · exact (stores.snoc spelled stored).perm commuting perm (last ▸ nodup)
  · exact fun g hg optional =>
      namedPerm.mem_iff.mp (List.mem_append_left _ (required g hg optional))

/-! ## Members that belong to no field -/

/-- The members that belong to a field. -/
def known (fields : List (Field σ)) (members : List (String × Document)) :
    List (String × Document) :=
  members.filter fun m => (fieldName? fields m.1).isSome

theorem named_known : named fields (known fields members) = named fields members := by
  rw [known, named, named, List.filterMap_filter]
  congr 1
  funext m
  cases fieldName? fields m.1 <;> rfl

theorem stores_known_iff :
    Stores fields (known fields members) r r' ↔ Stores fields members r r' := by
  induction members generalizing r with
  | nil => exact Iff.rfl
  | cons m rest ih =>
      obtain ⟨key, d⟩ := m
      cases spelled : fields.find? (·.hasSpelling key) with
      | none =>
          have drops : known fields ((key, d) :: rest) = known fields rest := by
            simp [known, fieldName?, spelled]
          rw [drops, ih]
          constructor
          · exact .unknown spelled
          · rintro (_ | ⟨-, more⟩ | ⟨spelled', -, -⟩)
            · exact more
            · rw [spelled] at spelled'
              cases spelled'
      | some f =>
          have keeps : known fields ((key, d) :: rest) = (key, d) :: known fields rest := by
            simp [known, fieldName?, spelled]
          rw [keeps]
          constructor
          · rintro (_ | ⟨unspelled, -⟩ | ⟨spelled, stored, more⟩)
            · rw [spelled] at unspelled
              cases unspelled
            · exact .known spelled stored (ih.mp more)
          · rintro (_ | ⟨unspelled, -⟩ | ⟨spelled, stored, more⟩)
            · rw [spelled] at unspelled
              cases unspelled
            · exact .known spelled stored (ih.mpr more)

/-- The members that belong to a field have different names when the fields differ. -/
theorem nodup_known (nodup : (named fields members).Nodup) :
    ((known fields members).map Prod.fst).Nodup := by
  rw [named, List.Nodup, List.pairwise_filterMap] at nodup
  rw [known, List.Nodup, List.pairwise_map, List.pairwise_filter]
  refine nodup.imp ?_
  intro m n differ hm hn same
  obtain ⟨name, hname⟩ := Option.isSome_iff_exists.mp hm
  exact differ name hname name (same ▸ hname) rfl

/-- A record whose fields commute decodes alike when its members are set one after the other, so
that they are sorted by name and of two of one name the last counts. -/
theorem record_ofList (commuting : Commuting fields) {kind : String} {start : σ}
    (h : record kind fields start (.record members) = .ok r) :
    record kind fields start (.record (Fields.ofList members)) = .ok r := by
  obtain ⟨stores, nodup, required⟩ := record_eq_ok_iff.mp h
  have perm : (known fields members).Perm (known fields (Fields.ofList members)) :=
    (Fields.filter_ofList_perm (p := fun key => (fieldName? fields key).isSome)
      (nodup_known nodup)).symm
  have namedPerm : (named fields members).Perm (named fields (Fields.ofList members)) := by
    have kept := perm.filterMap fun m => fieldName? fields m.1
    rw [← named, ← named, named_known, named_known] at kept
    exact kept
  refine record_eq_ok_iff.mpr ⟨?_, namedPerm.nodup_iff.mp nodup, ?_⟩
  · have stores := stores_known_iff.mpr stores
    exact stores_known_iff.mp (stores.perm commuting perm (named_known.symm ▸ nodup))
  · exact fun f hf optional => namedPerm.mem_iff.mp (required f hf optional)

end Decode

end UiReplay
