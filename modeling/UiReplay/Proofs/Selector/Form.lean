import UiReplay.Selector.XPath
import Mathlib.Data.List.Basic

/-!
# The form of a condition

A condition of a path is words, a quoted value and a closing word, with blanks
between them.  A *form* says which words.  `Form.Starts` says what it is for a list
to start with a condition of a form, and `Form.read?_eq_some_iff` that the reader of
the form finds just these conditions.

A condition is looked for anywhere in a text, so what stands around it counts.  Words
do not go across a bracket (`firstPlace_bracket`), and a single quote that ends a text
with none in it opens and closes nothing (`firstPlace_append_quote`).
-/

namespace UiReplay

namespace PathQuery

open Text (isBlank)

/-! ## How conditions are spelled -/

/-- A character that opens and closes a value. -/
def isQuote (c : Char) : Bool := c == '\'' || c == '"'

/-- A character of the words around a value. -/
def isWordChar (c : Char) : Bool := !(isBlank c || isQuote c || c == '[')

/-- No quote stands in a list. -/
def QuoteFree (cs : List Char) : Prop := ∀ c ∈ cs, isQuote c = false

instance (cs : List Char) : Decidable (QuoteFree cs) :=
  decidable_of_iff (cs.all fun c => !isQuote c) (by simp [QuoteFree])

theorem QuoteFree.append {as bs : List Char} (ha : QuoteFree as) (hb : QuoteFree bs) :
    QuoteFree (as ++ bs) := by
  intro c hc
  rcases List.mem_append.mp hc with hc | hc
  · exact ha c hc
  · exact hb c hc

/-- How a condition is spelled. -/
structure Form where
  /-- The words before the value, with room for blanks behind each. -/
  words : List (List Char)
  /-- The word that closes the condition, with room for blanks before it. -/
  close : List Char
  /-- The words before the value say something. -/
  words_solid : ∀ w ∈ words, w ≠ [] ∧ w.all isWordChar = true
  /-- The last word holds no blank and no quote. -/
  close_solid : close.all isWordChar = true

/-- Words with blanks behind each. -/
inductive Spaced : List (List Char) → List Char → Prop where
  /-- No word. -/
  | nil : Spaced [] []
  /-- A word, blanks, and further words. -/
  | cons {w gap cs : List Char} {ws : List (List Char)} :
      gap.all isBlank = true → Spaced ws cs → Spaced (w :: ws) (w ++ (gap ++ cs))

namespace Form

/-- A list starts with a condition of the form that holds the value. -/
def Starts (p : Form) (cs value : List Char) : Prop :=
  ∃ lead q gap rest, Spaced p.words lead ∧ isQuote q = true ∧ q ∉ value ∧
    gap.all isBlank = true ∧ cs = lead ++ q :: (value ++ q :: (gap ++ (p.close ++ rest)))

/-- A condition of the form stands somewhere in a list. -/
def OccursIn (p : Form) (cs : List Char) : Prop :=
  ∃ before rest value, cs = before ++ rest ∧ p.Starts rest value

/-- The condition of the form with a value in single quotes and no blanks. -/
def spell (p : Form) (value : List Char) : List Char :=
  p.words.flatten ++ '\'' :: (value ++ '\'' :: p.close)

end Form

/-! ## Lists around a character -/

/-- What stands before `a` goes on where a list without `a` ends. -/
theorem before_of_not_mem {a : Char} {u v s t : List Char} (h : u ++ v = s ++ a :: t)
    (ha : a ∉ u) : ∃ w, s = u ++ w ∧ v = w ++ a :: t := by
  rcases List.append_eq_append_iff.mp h with h | ⟨bs, rfl, hbs⟩
  · exact h
  · cases bs with
    | nil => exact ⟨[], by simp, by simpa using hbs.symm⟩
    | cons b bs =>
        obtain ⟨rfl, -⟩ := List.cons.inj hbs
        exact absurd (by simp) ha

/-- A list holds every `a` that does not stand behind it. -/
theorem behind_of_not_mem {a : Char} {u v s t : List Char} (h : u ++ a :: v = s ++ t)
    (ha : a ∉ t) : ∃ w, s = u ++ a :: w ∧ v = w ++ t := by
  rcases List.append_eq_append_iff.mp h with ⟨as, rfl, has⟩ | ⟨bs, rfl, rfl⟩
  · cases as with
    | nil =>
        subst has
        exact absurd (by simp) ha
    | cons c as =>
        obtain ⟨rfl, rfl⟩ := List.cons.inj has
        exact ⟨as, rfl, rfl⟩
  · exact absurd (by simp) ha

theorem bne_of_not_mem {q : Char} {value : List Char} (h : q ∉ value) :
    ∀ c ∈ value, (c != q) = true :=
  fun _ hc => bne_iff_ne.mpr fun he => h (he ▸ hc)

theorem takeWhile_ne_append {q : Char} {value : List Char} (h : q ∉ value) (rest : List Char) :
    (value ++ q :: rest).takeWhile (· != q) = value := by
  rw [List.takeWhile_append_of_pos (bne_of_not_mem h)]
  simp

theorem dropWhile_ne_append {q : Char} {value : List Char} (h : q ∉ value) (rest : List Char) :
    (value ++ q :: rest).dropWhile (· != q) = q :: rest := by
  rw [List.dropWhile_append_of_pos (bne_of_not_mem h)]
  simp

theorem not_mem_takeWhile_ne (q : Char) (cs : List Char) : q ∉ cs.takeWhile (· != q) := by
  intro h
  have := List.all_eq_true.mp (List.all_takeWhile (p := (· != q)) (l := cs)) q h
  simp at this

theorem eq_of_dropWhile_ne {q c : Char} {cs rest : List Char}
    (h : cs.dropWhile (· != q) = c :: rest) : c = q := by
  have hn := List.head?_dropWhile_not (· != q) cs
  rw [h] at hn
  simpa using hn

/-! ## Reading a form -/

/-- What follows words, with blanks behind each. -/
def skip? : List (List Char) → List Char → Option (List Char)
  | [], cs => some cs
  | w :: ws, cs => (after? w cs).bind fun rest => skip? ws (rest.dropWhile isBlank)

/-- The value of the condition of a form at the start of a list. -/
def Form.read? (p : Form) (cs : List Char) : Option (List Char) :=
  (skip? p.words cs).bind fun rest =>
    (takeQuoted? rest).bind fun quoted =>
      (after? p.close (quoted.2.dropWhile isBlank)).map fun _ => quoted.1

theorem after?_eq_some_iff {word cs rest : List Char} :
    after? word cs = some rest ↔ cs = word ++ rest := by
  rw [after?]
  split
  · next h =>
      obtain ⟨t, rfl⟩ := List.isPrefixOf_iff_prefix.mp h
      simp
  · next h =>
      constructor
      · intro h'
        cases h'
      · rintro rfl
        exact absurd (List.isPrefixOf_iff_prefix.mpr (List.prefix_append word rest)) h

theorem takeQuoted?_eq_some_iff {cs value rest : List Char} :
    takeQuoted? cs = some (value, rest) ↔
      ∃ q, isQuote q = true ∧ q ∉ value ∧ cs = q :: (value ++ q :: rest) := by
  constructor
  · intro h
    cases cs with
    | nil => cases h
    | cons q cs =>
        rw [takeQuoted?] at h
        split at h
        · next hq =>
            split at h
            · next c after hd =>
                cases h
                obtain rfl := eq_of_dropWhile_ne hd
                refine ⟨c, by simpa [isQuote] using hq, not_mem_takeWhile_ne c cs, ?_⟩
                rw [← hd, List.takeWhile_append_dropWhile]
            · cases h
        · cases h
  · rintro ⟨q, hq, hv, rfl⟩
    have hq : (q = '\'' || q = '"') = true := by simpa [isQuote] using hq
    rw [takeQuoted?, if_pos hq, dropWhile_ne_append hv, takeWhile_ne_append hv]

/-! ## Blanks between words -/

theorem isWordChar_iff {c : Char} :
    isWordChar c = true ↔ isBlank c = false ∧ isQuote c = false ∧ c ≠ '[' := by
  simp [isWordChar, and_assoc]

theorem not_isQuote_of_isBlank {c : Char} (h : isBlank c = true) : isQuote c = false ∧ c ≠ '[' := by
  constructor
  · rw [isQuote, Bool.or_eq_false_iff, beq_eq_false_iff_ne, beq_eq_false_iff_ne]
    constructor <;> rintro rfl <;> cases h
  · rintro rfl
    cases h

theorem isBlank_of_isQuote {c : Char} (h : isQuote c = true) : isBlank c = false := by
  cases hb : isBlank c with
  | false => rfl
  | true => rw [(not_isQuote_of_isBlank hb).1] at h; cases h

/-- A list of words that say something. -/
def Solid (ws : List (List Char)) : Prop := ∀ w ∈ ws, w ≠ [] ∧ w.all isWordChar = true

namespace Spaced

variable {ws : List (List Char)} {lead : List Char}

theorem flatten : ∀ ws : List (List Char), Spaced ws ws.flatten
  | [] => .nil
  | w :: ws => by
      have blank : ([] : List Char).all isBlank = true := rfl
      have := Spaced.cons (w := w) blank (flatten ws)
      simpa using this

/-- Words with blanks hold no quote and no bracket. -/
theorem plain (h : Spaced ws lead) (solid : Solid ws) :
    ∀ c ∈ lead, isQuote c = false ∧ c ≠ '[' := by
  induction h with
  | nil => simp
  | @cons w gap cs ws hgap _ ih =>
      intro c hc
      rw [List.mem_append, List.mem_append] at hc
      rcases hc with hc | hc | hc
      · have hw := (solid w (List.mem_cons_self ..)).2
        exact (isWordChar_iff.mp (List.all_eq_true.mp hw c hc)).2
      · exact not_isQuote_of_isBlank (List.all_eq_true.mp hgap c hc)
      · exact ih (fun w hw => solid w (List.mem_cons_of_mem _ hw)) c hc

/-- No blank stands before the first word. -/
theorem dropWhile (h : Spaced ws lead) (solid : Solid ws) {q : Char} (hq : isBlank q = false)
    (rest : List Char) : (lead ++ q :: rest).dropWhile isBlank = lead ++ q :: rest := by
  cases h with
  | nil => simp [hq]
  | @cons w gap cs ws hgap hcs =>
      obtain ⟨hne, hw⟩ := solid w (List.mem_cons_self ..)
      obtain ⟨c, w, rfl⟩ := List.exists_cons_of_ne_nil hne
      have hc : isBlank c = false :=
        (isWordChar_iff.mp (List.all_eq_true.mp hw c (List.mem_cons_self ..))).1
      simp [hc]

end Spaced

/-- Skipping words finds just the words with blanks behind each. -/
theorem skip?_eq_some_iff {ws : List (List Char)} (solid : Solid ws) {q : Char}
    (hq : isBlank q = false) {cs rest : List Char} :
    skip? ws cs = some (q :: rest) ↔ ∃ lead, Spaced ws lead ∧ cs = lead ++ q :: rest := by
  induction ws generalizing cs with
  | nil =>
      constructor
      · intro h
        cases h
        exact ⟨[], .nil, rfl⟩
      · rintro ⟨lead, h, rfl⟩
        cases h
        rfl
  | cons w ws ih =>
      have solid' : Solid ws := fun v hv => solid v (List.mem_cons_of_mem _ hv)
      rw [skip?, Option.bind_eq_some_iff]
      constructor
      · rintro ⟨r, hr, h⟩
        obtain ⟨lead, hl, he⟩ := (ih solid').mp h
        have blank : (r.takeWhile isBlank).all isBlank = true := List.all_takeWhile
        refine ⟨_, .cons blank hl, ?_⟩
        rw [after?_eq_some_iff.mp hr, List.append_assoc, List.append_assoc, ← he,
          List.takeWhile_append_dropWhile]
      · rintro ⟨_, h, rfl⟩
        cases h with
        | @cons _ gap lead _ hgap hl =>
            refine ⟨gap ++ (lead ++ q :: rest), after?_eq_some_iff.mpr (by simp), ?_⟩
            rw [List.dropWhile_append_of_pos (List.all_eq_true.mp hgap), hl.dropWhile solid' hq]
            exact (ih solid').mpr ⟨lead, hl, rfl⟩

namespace Form

variable {p : Form} {cs value : List Char}

/-- The closing word is found behind any blanks. -/
theorem after?_close_iff :
    (∃ rest, after? p.close (cs.dropWhile isBlank) = some rest) ↔
      ∃ gap rest, gap.all isBlank = true ∧ cs = gap ++ (p.close ++ rest) := by
  constructor
  · rintro ⟨rest, h⟩
    refine ⟨cs.takeWhile isBlank, rest, List.all_takeWhile, ?_⟩
    rw [← after?_eq_some_iff.mp h, List.takeWhile_append_dropWhile]
  · rintro ⟨gap, rest, hgap, rfl⟩
    rw [List.dropWhile_append_of_pos (List.all_eq_true.mp hgap)]
    cases hp : p.close with
    | nil => exact ⟨_, after?_eq_some_iff.mpr rfl⟩
    | cons c close =>
        have solid := p.close_solid
        rw [hp, List.all_cons, Bool.and_eq_true, isWordChar_iff] at solid
        refine ⟨rest, after?_eq_some_iff.mpr ?_⟩
        rw [List.cons_append, List.dropWhile_cons_of_neg (by simp [solid.1.1])]

/-- The reader of a form finds just the conditions of the form. -/
theorem read?_eq_some_iff : p.read? cs = some value ↔ p.Starts cs value := by
  simp only [read?, Option.bind_eq_some_iff, Option.map_eq_some_iff]
  constructor
  · rintro ⟨quoted, hskip, ⟨v, behind⟩, htake, rest, hclose, rfl⟩
    obtain ⟨q, hq, hv, rfl⟩ := takeQuoted?_eq_some_iff.mp htake
    obtain ⟨lead, hlead, rfl⟩ := (skip?_eq_some_iff p.words_solid (isBlank_of_isQuote hq)).mp hskip
    obtain ⟨gap, rest, hgap, rfl⟩ := after?_close_iff.mp ⟨rest, hclose⟩
    exact ⟨lead, q, gap, rest, hlead, hq, hv, hgap, rfl⟩
  · rintro ⟨lead, q, gap, rest, hlead, hq, hv, hgap, rfl⟩
    obtain ⟨behind, hclose⟩ := after?_close_iff.mpr ⟨gap, rest, hgap, rfl⟩
    exact ⟨_, (skip?_eq_some_iff p.words_solid (isBlank_of_isQuote hq)).mpr ⟨lead, hlead, rfl⟩,
      _, takeQuoted?_eq_some_iff.mpr ⟨q, hq, hv, rfl⟩, behind, hclose, rfl⟩

/-! ## Where no condition starts -/

theorem quoteFree_close (p : Form) : QuoteFree p.close :=
  fun c hc => (isWordChar_iff.mp (List.all_eq_true.mp p.close_solid c hc)).2.1

/-- Without a quote there is no condition. -/
theorem not_starts_of_quoteFree (free : QuoteFree cs) : ¬ p.Starts cs value := by
  rintro ⟨lead, q, gap, rest, -, hq, -, -, rfl⟩
  rw [free q (by simp)] at hq
  cases hq

/-- A condition goes on however the list goes on. -/
theorem Starts.append (h : p.Starts cs value) (more : List Char) :
    p.Starts (cs ++ more) value := by
  obtain ⟨lead, q, gap, rest, hlead, hq, hv, hgap, rfl⟩ := h
  exact ⟨lead, q, gap, rest ++ more, hlead, hq, hv, hgap, by simp⟩

/-- The words before a value do not go across a bracket. -/
theorem not_starts_bracket {s : List Char} (free : QuoteFree s) (rest : List Char) :
    ¬ p.Starts (s ++ '[' :: rest) value := by
  rintro ⟨lead, q, gap, rest', hlead, hq, -, -, he⟩
  have plain := hlead.plain p.words_solid
  obtain ⟨w, rfl, hw⟩ := before_of_not_mem he.symm fun h => (plain '[' h).2 rfl
  cases w with
  | nil =>
      cases hw
      cases hq
  | cons c w =>
      obtain ⟨rfl, -⟩ := List.cons.inj hw
      rw [free q (by simp)] at hq
      cases hq

/-- A single quote that ends a text, with no quote behind it, neither opens nor
closes a value. -/
theorem starts_append_quote_iff {s rest : List Char} (single : '\'' ∉ s)
    (free : QuoteFree rest) :
    p.Starts (s ++ '\'' :: rest) value ↔ p.Starts s value := by
  constructor
  · rintro ⟨lead, q, gap, behind, hlead, hq, hv, hgap, he⟩
    have plain := hlead.plain p.words_solid
    have hne : q ≠ '\'' := by
      rintro rfl
      obtain ⟨w, rfl, hw⟩ := before_of_not_mem he.symm fun h => by cases (plain _ h).1
      cases w with
      | nil =>
          obtain ⟨-, rfl⟩ := List.cons.inj hw
          cases free '\'' (by simp)
      | cons c w =>
          obtain ⟨rfl, -⟩ := List.cons.inj hw
          exact single (by simp)
    -- both quotes are double ones, so they stand before the single quote
    have hrest : q ∉ '\'' :: rest := by
      intro h
      rcases List.mem_cons.mp h with rfl | h
      · exact hne rfl
      · rw [free q h] at hq
        cases hq
    have he : (lead ++ q :: value) ++ q :: (gap ++ (p.close ++ behind)) = s ++ '\'' :: rest := by
      rw [he]
      simp
    obtain ⟨w, rfl, hw⟩ := behind_of_not_mem he hrest
    have gap_free : QuoteFree gap :=
      fun c hc => (not_isQuote_of_isBlank (List.all_eq_true.mp hgap c hc)).1
    have hclose : '\'' ∉ gap ++ p.close := by
      intro h
      cases gap_free.append p.quoteFree_close _ h
    obtain ⟨w, rfl, -⟩ := before_of_not_mem ((List.append_assoc ..).trans hw) hclose
    exact ⟨lead, q, gap, w, hlead, hq, hv, hgap, by simp⟩
  · intro h
    exact h.append _

/-! ## Searching -/

theorem read?_eq_none_iff : p.read? cs = none ↔ ∀ value, ¬ p.Starts cs value := by
  rw [Option.eq_none_iff_forall_ne_some]
  exact forall_congr' fun value => not_congr read?_eq_some_iff

/-- A search finds nothing just where no condition of the form occurs. -/
theorem firstPlace_eq_none_iff : firstPlace p.read? cs = none ↔ ¬ p.OccursIn cs := by
  induction cs with
  | nil =>
      rw [firstPlace, read?_eq_none_iff]
      constructor
      · rintro h ⟨before, rest, value, he, hs⟩
        obtain ⟨-, rfl⟩ := List.append_eq_nil_iff.mp he.symm
        exact h value hs
      · intro h value hs
        exact h ⟨[], [], value, rfl, hs⟩
  | cons c cs ih =>
      have split : p.OccursIn (c :: cs) ↔ (∃ value, p.Starts (c :: cs) value) ∨ p.OccursIn cs := by
        constructor
        · rintro ⟨before, rest, value, he, hs⟩
          rcases List.cons_eq_append_iff.mp he with ⟨rfl, rfl⟩ | ⟨before, rfl, rfl⟩
          · exact .inl ⟨value, hs⟩
          · exact .inr ⟨before, rest, value, rfl, hs⟩
        · rintro (⟨value, hs⟩ | ⟨before, rest, value, rfl, hs⟩)
          · exact ⟨[], c :: cs, value, rfl, hs⟩
          · exact ⟨c :: before, rest, value, rfl, hs⟩
      rw [firstPlace, split, not_or, not_exists, ← ih, ← read?_eq_none_iff]
      cases p.read? (c :: cs) <;> simp

theorem firstPlace_cons_of_none {c : Char} (h : p.read? (c :: cs) = none) :
    firstPlace p.read? (c :: cs) = firstPlace p.read? cs := by
  rw [firstPlace, h]

theorem firstPlace_of_read? (h : p.read? cs = some value) :
    firstPlace p.read? cs = some value := by
  cases cs with
  | nil => exact h
  | cons c cs => rw [firstPlace, h]

theorem firstPlace_of_quoteFree (free : QuoteFree cs) :
    firstPlace p.read? cs = none := by
  rw [firstPlace_eq_none_iff]
  rintro ⟨before, rest, value, rfl, hs⟩
  exact not_starts_of_quoteFree (fun c hc => free c (List.mem_append_right before hc)) hs

/-- Nothing is found before a bracket where no quote stands. -/
theorem firstPlace_bracket {s : List Char} (free : QuoteFree s)
    (rest : List Char) :
    firstPlace p.read? (s ++ '[' :: rest) = firstPlace p.read? rest := by
  have here : p.read? (s ++ '[' :: rest) = none :=
    read?_eq_none_iff.mpr fun _ => not_starts_bracket free rest
  induction s with
  | nil => exact firstPlace_cons_of_none here
  | cons c s ih =>
      have free' : QuoteFree s := fun d hd => free d (List.mem_cons_of_mem c hd)
      exact (firstPlace_cons_of_none here).trans
        (ih free' (read?_eq_none_iff.mpr fun _ => not_starts_bracket free' rest))

/-- A single quote that ends a text does not change what is found in it. -/
theorem firstPlace_append_quote {s rest : List Char} (single : '\'' ∉ s)
    (free : QuoteFree rest) :
    firstPlace p.read? (s ++ '\'' :: rest) = firstPlace p.read? s := by
  have same : ∀ s, '\'' ∉ s → p.read? (s ++ '\'' :: rest) = p.read? s := by
    intro s single
    apply Option.ext
    intro value
    rw [read?_eq_some_iff, read?_eq_some_iff]
    exact starts_append_quote_iff single free
  have nil_free : QuoteFree [] := by simp [QuoteFree]
  have none_nil : p.read? [] = none := read?_eq_none_iff.mpr fun _ => not_starts_of_quoteFree nil_free
  induction s with
  | nil =>
      rw [List.nil_append, firstPlace_cons_of_none ((same [] single).trans none_nil),
        firstPlace_of_quoteFree free, firstPlace, none_nil]
  | cons c s ih =>
      have single' : '\'' ∉ s := fun h => single (List.mem_cons_of_mem c h)
      have hs := same (c :: s) single
      cases h : p.read? (c :: s) with
      | none =>
          rw [firstPlace_cons_of_none h, ← ih single']
          exact firstPlace_cons_of_none (hs.trans h)
      | some value =>
          rw [firstPlace_of_read? h]
          exact firstPlace_of_read? (hs.trans h)

/-- The value that a form spells is read back. -/
theorem read?_spell (p : Form) {value : List Char} (single : '\'' ∉ value) (rest : List Char) :
    p.read? (p.spell value ++ rest) = some value := by
  rw [read?_eq_some_iff]
  exact ⟨p.words.flatten, '\'', [], rest, .flatten _, rfl, single, rfl, by simp [spell]⟩

end Form

end PathQuery

end UiReplay
