import Mathlib.Data.List.Forall2
import UiReplay.Json.Decoding

/-!
# What decoding the fields of a record does

The fields of a record are visited in order, and each is visited at most once.  So what the
other fields keep is, at the end, as the field that sets it left it (`visit_puts`), and what
every field keeps holds of whatever is decoded (`record_keeps`).  A list decodes item by item
(`each_eq_ok_iff`).

Some fields of a record can be *set aside*, when the others neither read nor change what they
set.  If the members of such fields decode, they make no difference to the rest of the record,
and none to whether the record decodes (`Aside.record`).
-/

namespace UiReplay

variable {σ τ α : Type}

/-! ## Related lists -/

theorem exists_of_mem_right {α β : Type} {R : α → β → Prop} {as : List α} {bs : List β}
    (h : List.Forall₂ R as bs) {b : β} (hb : b ∈ bs) : ∃ a ∈ as, R a b := by
  induction h with
  | nil => cases hb
  | cons head _ ih =>
      rcases List.mem_cons.mp hb with rfl | hb
      · exact ⟨_, List.mem_cons_self, head⟩
      · obtain ⟨a, ha, h⟩ := ih hb
        exact ⟨a, List.mem_cons_of_mem _ ha, h⟩

/-! ## Natural numbers -/

/-- A natural number below a limit is an integer below the limit. -/
theorem Decode.natBelow_eq_ok_iff {name : String} {limit n : Nat} {d : Document} :
    natBelow name limit d = .ok n ↔ d = .integer n ∧ n < limit := by
  constructor
  · intro h
    cases d with
    | integer i =>
        rw [natBelow, integerIn] at h
        split at h
        · next inRange =>
            simp only [Bool.and_eq_true, decide_eq_true_eq] at inRange
            cases h
            refine ⟨?_, show i.toNat < limit by omega⟩
            show Document.integer i = .integer i.toNat
            rw [Int.toNat_of_nonneg inRange.1]
        · cases h
    | _ => cases h
  · rintro ⟨rfl, h⟩
    have inRange : (decide ((0 : Int) ≤ n) && decide ((n : Int) < limit)) = true := by
      simpa using h
    rw [natBelow, integerIn, if_pos inRange]
    rfl

/-! ## Fields -/

namespace Field

/-- Storing a value keeps something. -/
def Keeps (f : Field σ) (P : σ → Prop) : Prop :=
  ∀ (d : Document) (r r' : σ), f.store d r = .ok r' → P r → P r'

/-- A value is stored by setting it. -/
theorem store_eq_ok {decode : Decoder α} {set : α → σ → σ} {d : Document} {r r' : σ}
    (h : ((decode d).map fun a => set a r) = .ok r') : ∃ a, decode d = .ok a ∧ r' = set a r := by
  cases hd : decode d with
  | ok a =>
      rw [hd] at h
      cases h
      exact ⟨a, rfl, rfl⟩
  | error fault =>
      rw [hd] at h
      cases h

theorem store_withDefault {name : String} {aliases : List String} {decode : Decoder α}
    {set : α → σ → σ} {d : Document} {r r' : σ}
    (h : (withDefault name aliases decode set).store d r = .ok r') :
    ∃ a, decode d = .ok a ∧ r' = set a r :=
  store_eq_ok h

theorem map_of_decode {decode : Decoder α} {set : α → σ → σ} {d : Document} {a : α}
    (h : decode d = .ok a) (r : σ) : ((decode d).map fun a => set a r) = .ok (set a r) := by
  rw [h]
  rfl

theorem store_of_decode {name : String} {aliases : List String} {decode : Decoder α}
    {set : α → σ → σ} {d : Document} {a : α} (h : decode d = .ok a) (r : σ) :
    (withDefault name aliases decode set).store d r = .ok (set a r) :=
  map_of_decode h r

theorem store_required_of_decode {name : String} {decode : Decoder α} {set : α → σ → σ}
    {d : Document} {a : α} (h : decode d = .ok a) (r : σ) :
    (required name decode set).store d r = .ok (set a r) :=
  map_of_decode h r

theorem keeps_withDefault {name : String} {aliases : List String} {decode : Decoder α}
    {set : α → σ → σ} {P : σ → Prop} (h : ∀ d a, decode d = .ok a → ∀ r, P r → P (set a r)) :
    (withDefault name aliases decode set).Keeps P := by
  intro d r r' hstore
  obtain ⟨a, ha, rfl⟩ := store_withDefault hstore
  exact h d a ha r

theorem keeps_required {name : String} {decode : Decoder α} {set : α → σ → σ} {P : σ → Prop}
    (h : ∀ d a, decode d = .ok a → ∀ r, P r → P (set a r)) :
    (required name decode set).Keeps P := by
  intro d r r' hstore
  obtain ⟨a, ha, rfl⟩ := store_eq_ok hstore
  exact h d a ha r

theorem hasSpelling_iff {f : Field σ} {key : String} :
    f.hasSpelling key = true ↔ f.name = key ∨ key ∈ f.aliases := by
  simp [hasSpelling]

/-- What a field does to a part of the record that it sets on its own. -/
theorem map_store {decode : Decoder α} {set : α → σ → σ} {view : σ → σ}
    (h : ∀ a r, view (set a r) = set a (view r)) (d : Document) (r : σ) :
    ((decode d).map fun a => set a r).map view = (decode d).map fun a => set a (view r) := by
  cases decode d with
  | error fault => rfl
  | ok a => exact congrArg Except.ok (h a r)

theorem respects_withDefault {name : String} {aliases : List String} {decode : Decoder α}
    {set : α → σ → σ} {view : σ → σ} (h : ∀ a r, view (set a r) = set a (view r)) (d : Document)
    {r r' : σ} (hview : view r = view r') :
    ((withDefault name aliases decode set).store d r).map view =
      ((withDefault name aliases decode set).store d r').map view := by
  rw [withDefault, map_store h, map_store h, hview]

theorem respects_required {name : String} {decode : Decoder α} {set : α → σ → σ} {view : σ → σ}
    (h : ∀ a r, view (set a r) = set a (view r)) (d : Document) {r r' : σ}
    (hview : view r = view r') :
    ((required name decode set).store d r).map view =
      ((required name decode set).store d r').map view := by
  rw [required, map_store h, map_store h, hview]

end Field

namespace Decode

variable {fields : List (Field σ)} {members : List (String × Document)} {seen seen' : List String}
  {r r' : σ} {P : σ → Prop}

/-! ## Values that may be missing, and lists -/

theorem of_nullable {decode : Decoder α} {d : Document} {a : α}
    (h : nullable decode d = .ok (some a)) : decode d = .ok a := by
  unfold nullable at h
  split at h
  · cases h
  · cases hd : decode d with
    | error fault =>
        rw [hd] at h
        cases h
    | ok b =>
        rw [hd] at h
        cases h
        rfl

/-- A list decodes when each of its items does, to what the items decode to. -/
theorem each_eq_ok_iff {decode : Decoder α} {ds : List Document} {as : List α} :
    each decode ds = .ok as ↔ List.Forall₂ (fun d a => decode d = .ok a) ds as := by
  induction ds generalizing as with
  | nil => rw [each, Except.ok.injEq, eq_comm, List.forall₂_nil_left_iff]
  | cons d rest ih =>
      rw [each, List.forall₂_cons_left_iff]
      constructor
      · intro h
        cases hd : decode d with
        | error fault =>
            rw [hd] at h
            cases h
        | ok b =>
            rw [hd] at h
            cases hrest : each decode rest with
            | error fault =>
                rw [hrest] at h
                cases h
            | ok bs =>
                rw [hrest] at h
                cases h
                exact ⟨b, bs, rfl, ih.mp hrest, rfl⟩
      · rintro ⟨b, bs, hd, hrest, rfl⟩
        rw [hd, ih.mpr hrest]
        rfl

theorem each_eq_ok {β : Type} {decode : Decoder α} {write : β → Document} {bs : List β}
    {as : List α} (h : List.Forall₂ (fun b a => decode (write b) = .ok a) bs as) :
    each decode (bs.map write) = .ok as :=
  each_eq_ok_iff.mpr (List.forall₂_map_left_iff.mpr h)

/-- What holds of whatever decodes holds of each item of a list that decodes. -/
theorem forall_of_each {decode : Decoder α} {P : α → Prop}
    (h : ∀ d a, decode d = .ok a → P a) {ds : List Document} {as : List α}
    (each : each decode ds = .ok as) : ∀ a ∈ as, P a := by
  intro a ha
  obtain ⟨d, -, hd⟩ := exists_of_mem_right (each_eq_ok_iff.mp each) ha
  exact h d a hd

/-! ## One member -/

/-- The first member is unknown, or it is stored and the rest is visited. -/
theorem visit_cons {key : String} {d : Document} {rest : List (String × Document)}
    (h : visit fields ((key, d) :: rest) seen r = .ok (r', seen')) :
    (fields.find? (·.hasSpelling key) = none ∧ visit fields rest seen r = .ok (r', seen')) ∨
      ∃ f, fields.find? (·.hasSpelling key) = some f ∧ f.name ∉ seen ∧
        ∃ next, f.store d r = .ok next ∧
          visit fields rest (f.name :: seen) next = .ok (r', seen') := by
  rw [visit] at h
  split at h
  · next hnone => exact .inl ⟨hnone, h⟩
  · next f hf =>
      refine .inr ⟨f, hf, ?_⟩
      split at h
      · cases h
      · next fresh =>
          refine ⟨by simpa using fresh, ?_⟩
          split at h
          · cases h
          · next next hstore => exact ⟨next, hstore, h⟩

/-- A member that is stored is followed by the rest. -/
theorem visit_of_store {key : String} {d : Document} {rest : List (String × Document)} {f : Field σ}
    {next : σ} (spelled : fields.find? (·.hasSpelling key) = some f) (fresh : f.name ∉ seen)
    (stored : f.store d r = .ok next) :
    visit fields ((key, d) :: rest) seen r = visit fields rest (f.name :: seen) next := by
  have unseen : seen.contains f.name = false := by simpa using fresh
  rw [visit, spelled]
  dsimp only
  rw [unseen, stored]
  rfl

/-! ## All members -/

/-- What the fields keep that were not visited before is kept. -/
theorem visit_keeps (keeps : ∀ f ∈ fields, f.name ∉ seen → f.Keeps P)
    (h : visit fields members seen r = .ok (r', seen')) (hr : P r) : P r' := by
  induction members generalizing seen r with
  | nil =>
      cases h
      exact hr
  | cons m rest ih =>
      obtain ⟨key, d⟩ := m
      rcases visit_cons h with ⟨-, h⟩ | ⟨f, hf, fresh, next, hstore, h⟩
      · exact ih keeps h hr
      · refine ih ?_ h (keeps f (List.mem_of_find?_eq_some hf) fresh d r next hstore hr)
        intro g hg hnew
        exact keeps g hg fun hseen => hnew (List.mem_cons_of_mem _ hseen)

/-- What a member makes true holds at the end, when all other fields keep it. -/
theorem visit_puts {key : String} {d : Document} {f : Field σ} (mem : (key, d) ∈ members)
    (spelled : fields.find? (·.hasSpelling key) = some f)
    (puts : ∀ {r r' : σ}, f.store d r = .ok r' → P r')
    (keeps : ∀ g ∈ fields, g.name ≠ f.name → g.Keeps P)
    (h : visit fields members seen r = .ok (r', seen')) : P r' := by
  induction members generalizing seen r with
  | nil => cases mem
  | cons m rest ih =>
      rcases List.mem_cons.mp mem with rfl | later
      · rcases visit_cons h with ⟨hnone, -⟩ | ⟨g, hg, -, next, hstore, h⟩
        · rw [hnone] at spelled
          cases spelled
        · cases hg.symm.trans spelled
          refine visit_keeps ?_ h (puts hstore)
          intro g hg fresh
          exact keeps g hg fun same => fresh (same ▸ List.mem_cons_self)
      · obtain ⟨key', d'⟩ := m
        rcases visit_cons h with ⟨-, h⟩ | ⟨g, -, -, next, -, h⟩
        · exact ih later h
        · exact ih later h

/-- Items in declared order keep what every field keeps. -/
theorem inOrder_keeps {kind : String} {total given : Nat} {items : List Document}
    (keeps : ∀ f ∈ fields, f.Keeps P) (h : inOrder kind total given fields items r = .ok r')
    (hr : P r) : P r' := by
  induction fields generalizing items r with
  | nil =>
      cases items with
      | nil =>
          cases h
          exact hr
      | cons d rest => cases h
  | cons f fields ih =>
      have others : ∀ g ∈ fields, g.Keeps P := fun g hg => keeps g (List.mem_cons_of_mem _ hg)
      cases items with
      | nil =>
          rw [inOrder] at h
          split at h
          · exact ih others h hr
          · cases h
      | cons d rest =>
          rw [inOrder] at h
          split at h
          · cases h
          · next next hstore => exact ih others h (keeps f List.mem_cons_self d r next hstore hr)

/-- When the items have ended, the other fields are left out. -/
theorem inOrder_nil {kind : String} {total given : Nat}
    (h : inOrder kind total given fields [] r = .ok r') : r' = r := by
  induction fields with
  | nil =>
      cases h
      rfl
  | cons f fields ih =>
      rw [inOrder] at h
      split at h
      · exact ih h
      · cases h

/-- What an item makes true holds at the end, when the fields after its own keep it. -/
theorem inOrder_puts {kind : String} {total given : Nat} {items : List Document}
    {before after : List (Field σ)} {f : Field σ} {d : Document}
    (item : items[before.length]? = some d)
    (puts : ∀ {r r' : σ}, f.store d r = .ok r' → P r') (keeps : ∀ g ∈ after, g.Keeps P)
    (h : inOrder kind total given (before ++ f :: after) items r = .ok r') : P r' := by
  induction before generalizing items r with
  | nil =>
      cases items with
      | nil => cases item
      | cons e rest =>
          cases item
          rw [List.nil_append, inOrder] at h
          split at h
          · cases h
          · next next stored => exact inOrder_keeps keeps h (puts stored)
  | cons g before ih =>
      cases items with
      | nil => cases item
      | cons e rest =>
          rw [List.cons_append, inOrder] at h
          split at h
          · cases h
          · exact ih item h

/-- What the fields keep that have an item is kept, when the items end before the others. -/
theorem inOrder_keeps_of_length_le {kind : String} {total given : Nat} {items : List Document}
    {before after : List (Field σ)} (short : items.length ≤ before.length)
    (keeps : ∀ g ∈ before, g.Keeps P)
    (h : inOrder kind total given (before ++ after) items r = .ok r') (hr : P r) : P r' := by
  induction before generalizing items r with
  | nil =>
      cases List.length_eq_zero_iff.mp (Nat.le_zero.mp short)
      exact inOrder_nil h ▸ hr
  | cons g before ih =>
      cases items with
      | nil => exact inOrder_nil h ▸ hr
      | cons e rest =>
          rw [List.cons_append, inOrder] at h
          split at h
          · cases h
          · next next stored =>
              exact ih (Nat.le_of_succ_le_succ short)
                (fun g hg => keeps g (List.mem_cons_of_mem _ hg)) h
                (keeps g List.mem_cons_self _ _ _ stored hr)

/-! ## Records -/

/-- The members of a record that decodes were visited. -/
theorem visit_of_record {kind : String} {start : σ}
    (h : record kind fields start (.record members) = .ok r') :
    ∃ seen, visit fields members [] start = .ok (r', seen) := by
  rw [record] at h
  split at h
  · cases h
  · next r seen hvisit =>
      split at h
      · cases h
      · cases h
        exact ⟨seen, hvisit⟩

/-- What is true of the start and kept by every field is true of what is decoded. -/
theorem record_keeps {kind : String} {start : σ} {d : Document}
    (keeps : ∀ f ∈ fields, f.Keeps P) (h : record kind fields start d = .ok r')
    (hstart : P start) : P r' := by
  cases d with
  | record members =>
      obtain ⟨seen, hvisit⟩ := visit_of_record h
      exact visit_keeps (fun f hf _ => keeps f hf) hvisit hstart
  | list items => exact inOrder_keeps keeps h hstart
  | _ => cases h

/-! ## Fields set aside -/

/-- The fields with some names are set aside, and `view` is what remains of a record. -/
structure Aside (fields : List (Field σ)) (names : List String) (view : σ → τ) : Prop where
  /-- A field set aside has one spelling, and it is that of no other field. -/
  spelled : ∀ f ∈ fields, ∀ key, f.hasSpelling key = true →
    key = f.name ∨ f.name ∉ names ∧ key ∉ names
  /-- It may be left out. -/
  optional : ∀ f ∈ fields, f.name ∈ names → f.optional = true
  /-- It does not change what remains. -/
  leaves : ∀ f ∈ fields, f.name ∈ names →
    ∀ {d : Document} {r r' : σ}, f.store d r = .ok r' → view r' = view r
  /-- What the others do to what remains depends on what remains only. -/
  respects : ∀ f ∈ fields, f.name ∉ names → ∀ (d : Document) {r r' : σ}, view r = view r' →
    (f.store d r).map view = (f.store d r').map view

/-- The members that are not set aside. -/
def without (names : List String) (members : List (String × α)) : List (String × α) :=
  members.filter fun m => !names.contains m.1

/-- What remains of a record and of the names that were visited. -/
def outlook (names : List String) (view : σ → τ) (p : σ × List String) : τ × List String :=
  (view p.1, p.2.filter fun n => !names.contains n)

variable {names : List String} {view : σ → τ}

/-- Two outcomes that look the same are both faults or both values. -/
theorem outcomes_of_map_eq {ε : Type} {x y : Except ε α} {f : α → τ} (h : x.map f = y.map f) :
    (∃ e, x = .error e ∧ y = .error e) ∨ ∃ a b, x = .ok a ∧ y = .ok b ∧ f a = f b := by
  cases x with
  | error e =>
      cases y with
      | error e' =>
          cases h
          exact .inl ⟨e, rfl, rfl⟩
      | ok b => cases h
  | ok a =>
      cases y with
      | error e' => cases h
      | ok b => exact .inr ⟨a, b, rfl, rfl, Except.ok.inj h⟩

theorem mem_iff_of_filter_eq (hseen : (seen.filter fun n => !names.contains n) =
    seen'.filter fun n => !names.contains n) {name : String} (h : name ∉ names) :
    name ∈ seen ↔ name ∈ seen' := by
  have mem : name ∈ (seen.filter fun n => !names.contains n) ↔
      name ∈ seen'.filter fun n => !names.contains n := by rw [hseen]
  simpa [List.mem_filter, h] using mem

/-- Members set aside that decode make no difference to what remains. -/
theorem Aside.visit (aside : Aside fields names view) (nodup : (members.map Prod.fst).Nodup)
    (fits : ∀ m ∈ members, m.1 ∈ names → ∀ f, fields.find? (·.hasSpelling m.1) = some f →
      ∀ r, ∃ r', f.store m.2 r = .ok r')
    (fresh : ∀ m ∈ members, m.1 ∈ names → m.1 ∉ seen)
    (hseen : (seen.filter fun n => !names.contains n) = seen'.filter fun n => !names.contains n)
    (hview : view r = view r') :
    (Decode.visit fields members seen r).map (outlook names view) =
      (Decode.visit fields (without names members) seen' r').map (outlook names view) := by
  induction members generalizing seen seen' r r' with
  | nil =>
      show Except.ok (outlook names view (r, seen)) = Except.ok (outlook names view (r', seen'))
      rw [outlook, outlook, hview, hseen]
  | cons m rest ih =>
      obtain ⟨key, d⟩ := m
      obtain ⟨hkey, nodup⟩ := List.nodup_cons.mp nodup
      have fits' := fun m hm => fits m (List.mem_cons_of_mem _ hm)
      have fresh' := fun m hm => fresh m (List.mem_cons_of_mem _ hm)
      by_cases hname : key ∈ names
      · -- the member is set aside: what remains stays
        have drops : without names ((key, d) :: rest) = without names rest := by
          simp [without, hname]
        rw [drops, Decode.visit]
        split
        · exact ih nodup fits' fresh' hseen hview
        · next f hf =>
            have hmem := List.mem_of_find?_eq_some hf
            have spelling : f.hasSpelling key = true := by simpa using List.find?_some hf
            have same : key = f.name :=
              (aside.spelled f hmem key spelling).resolve_right fun h => h.2 hname
            obtain ⟨next, hnext⟩ := fits _ List.mem_cons_self hname f hf r
            have unseen : seen.contains f.name = false := by
              simpa [← same] using fresh _ List.mem_cons_self hname
            rw [if_neg (by rw [unseen]; exact Bool.false_ne_true), hnext]
            refine ih nodup fits' ?_ ?_ ?_
            · intro m hm hm' hseen
              rcases List.mem_cons.mp hseen with h | h
              · exact hkey (List.mem_map.mpr ⟨m, hm, h.trans same.symm⟩)
              · exact fresh' m hm hm' h
            · rw [← hseen, List.filter_cons_of_neg]
              simp [← same, hname]
            · rw [aside.leaves f hmem (same ▸ hname) hnext, hview]
      · -- both sides visit the member
        have keeps : without names ((key, d) :: rest) = (key, d) :: without names rest := by
          simp [without, hname]
        rw [keeps, Decode.visit, Decode.visit]
        split
        · exact ih nodup fits' fresh' hseen hview
        · next f hf =>
            have hmem := List.mem_of_find?_eq_some hf
            have spelling : f.hasSpelling key = true := by simpa using List.find?_some hf
            have other : f.name ∉ names := by
              rcases aside.spelled f hmem key spelling with same | h
              · exact same ▸ hname
              · exact h.1
            have contains : seen.contains f.name = seen'.contains f.name := by
              rw [Bool.eq_iff_iff, List.contains_iff_mem, List.contains_iff_mem]
              exact mem_iff_of_filter_eq hseen other
            rw [contains]
            split
            · rfl
            · rcases outcomes_of_map_eq (aside.respects f hmem other d hview) with
                ⟨fault, h, h'⟩ | ⟨next, next', h, h', hview⟩
              · rw [h, h']
              · rw [h, h']
                refine ih nodup fits' ?_ ?_ hview
                · intro m hm hm' hseen
                  rcases List.mem_cons.mp hseen with h | h
                  · exact other (h ▸ hm')
                  · exact fresh' m hm hm' h
                · rw [List.filter_cons_of_pos (by simpa using other),
                    List.filter_cons_of_pos (by simpa using other), hseen]

/-- Whether a field that must be there is missing does not depend on what is set aside. -/
theorem Aside.missing? (aside : Aside fields names view) {seen seen' : List String}
    (hseen : (seen.filter fun n => !names.contains n) = seen'.filter fun n => !names.contains n) :
    Decode.missing? fields seen = Decode.missing? fields seen' := by
  have same : ∀ f ∈ fields, (!f.optional && !seen.contains f.name) =
      (!f.optional && !seen'.contains f.name) := by
    intro f hf
    by_cases hname : f.name ∈ names
    · rw [aside.optional f hf hname]
      rfl
    · congr 2
      rw [Bool.eq_iff_iff, List.contains_iff_mem, List.contains_iff_mem]
      exact mem_iff_of_filter_eq hseen hname
  rw [Decode.missing?, Decode.missing?, ← List.head?_filter, ← List.head?_filter,
    List.filter_congr same]

/-- Members set aside that decode make no difference to whether a record decodes, nor to what
remains of it. -/
theorem Aside.record (aside : Aside fields names view) {kind : String} {start : σ}
    (nodup : (members.map Prod.fst).Nodup)
    (fits : ∀ m ∈ members, m.1 ∈ names → ∀ f, fields.find? (·.hasSpelling m.1) = some f →
      ∀ r, ∃ r', f.store m.2 r = .ok r') :
    (Decode.record kind fields start (.record members)).map view =
      (Decode.record kind fields start (.record (without names members))).map view := by
  have visits : (Decode.visit fields members [] start).map (outlook names view) =
      (Decode.visit fields (without names members) [] start).map (outlook names view) :=
    aside.visit nodup fits (fun _ _ _ => List.not_mem_nil) rfl rfl
  rw [Decode.record, Decode.record]
  rcases outcomes_of_map_eq visits with ⟨fault, h, h'⟩ | ⟨⟨r, seen⟩, ⟨r', seen'⟩, h, h', same⟩
  · rw [h, h']
  · obtain ⟨hview, hseen⟩ := Prod.mk.inj same
    rw [h, h']
    dsimp only at hview hseen ⊢
    rw [aside.missing? hseen]
    cases Decode.missing? fields seen' with
    | some name => rfl
    | none => exact congrArg Except.ok hview

end Decode

end UiReplay
