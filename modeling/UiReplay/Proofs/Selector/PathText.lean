import UiReplay.Proofs.Selector.Form
import UiReplay.Proofs.Selector.Strategies
import UiReplay.Proofs.Number.Numeral
import UiReplay.Selector.Matcher

/-!
# The text of a path

The path of an element is written as its class without the package and one condition,
with a value between single quotes.  It is read by three searches that each go over
the whole text.

The class and the written condition are always read back, with just the value that was
written.  No search finds anything in the class, among the words of another condition,
or across the closing quote.  It may find a condition inside the value, though: a value
with double quotes is free to spell one.  So the path is read as it was written exactly
when the value spells no other condition (`parse?_byPath`).
-/

namespace UiReplay

namespace PathQuery

open Text (isBlank)

/-! ## The three conditions on a node -/

/-- What a condition can speak of. -/
inductive Attribute where
  /-- The text of the node. -/
  | text
  /-- The description of the node. -/
  | contentDesc
  /-- A part of the resource id. -/
  | resourcePart
deriving DecidableEq, Repr

namespace Attribute

/-- How the condition on an attribute is spelled. -/
def form : Attribute → Form
  | text => ⟨["@text".toList, ['=']], [], by decide, by decide⟩
  | contentDesc => ⟨["@content-desc".toList, ['=']], [], by decide, by decide⟩
  | resourcePart =>
      ⟨["contains(".toList, "@resource-id".toList, [',']], [')'], by decide, by decide⟩

/-- How the condition on an attribute is read. -/
def read? : Attribute → List Char → Option (List Char)
  | text => equality? "@text".toList
  | contentDesc => equality? "@content-desc".toList
  | resourcePart => containment?

/-- Each condition is read in the way of its form. -/
theorem read?_eq (a : Attribute) : a.read? = a.form.read? := by
  have equality : ∀ name, equality? name =
      fun cs => (skip? [name, ['=']] cs).bind fun rest =>
        (takeQuoted? rest).bind fun quoted =>
          (after? [] (quoted.2.dropWhile isBlank)).map fun _ => quoted.1 := by
    intro name
    funext cs
    simp [equality?, skip?, after?, Option.bind_assoc, Option.map_eq_bind]
  cases a with
  | text => exact equality _
  | contentDesc => exact equality _
  | resourcePart =>
      funext cs
      simp only [read?, Form.read?, form, containment?, skip?, Option.bind_eq_bind,
        Option.pure_def, Option.bind_assoc, Option.bind_some, Option.map_eq_bind]
      rfl

/-- The words of one condition do not start another. -/
theorem firstPlace_words {a b : Attribute} (h : a ≠ b) (cs : List Char) :
    firstPlace a.form.read? (b.form.words.flatten ++ '\'' :: cs) =
      firstPlace a.form.read? cs := by
  cases a <;> cases b <;> first | exact absurd rfl h | rfl

/-- The condition on an attribute with a value, as it is spelled. -/
theorem search_spell (a : Attribute) {value rest : List Char} (single : '\'' ∉ value)
    (free : QuoteFree rest) (b : Attribute) :
    search b.read? (a.form.spell value ++ rest) =
      if a = b then some (String.ofList value) else search b.read? value := by
  rw [search, search, read?_eq]
  split
  · next h =>
      subst h
      rw [Form.firstPlace_of_read? (Form.read?_spell a.form single rest), Option.map_some]
  · next h =>
      have closed : QuoteFree (a.form.close ++ rest) := a.form.quoteFree_close.append free
      have he : a.form.spell value ++ rest =
          a.form.words.flatten ++ '\'' :: (value ++ '\'' :: (a.form.close ++ rest)) := by
        simp [Form.spell]
      rw [he, firstPlace_words (Ne.symm h), Form.firstPlace_append_quote single closed]

end Attribute

/-! ## Written paths -/

/-- The attribute that a condition speaks of, with its value. -/
def Condition.quoted? : Condition → Option (Attribute × String)
  | .text s => some (.text, s)
  | .contentDesc s => some (.contentDesc, s)
  | .resourcePart s => some (.resourcePart, s)
  | .position _ => none

/-- A condition whose value can stand between single quotes. -/
def Condition.IsQuotable (c : Condition) : Prop :=
  ∀ a value, c.quoted? = some (a, value) → '\'' ∉ value.toList

/-- The value of a condition spells no other condition. -/
def Condition.IsAlone (c : Condition) : Prop :=
  ∀ a value, c.quoted? = some (a, value) → ∀ b ≠ a, ¬ b.form.OccursIn value.toList

/-- A class that can be written: no blank, no bracket, no slash and no quote. -/
def IsPlainClass (name : String) : Prop :=
  ∀ c ∈ name.toList, isClassChar c = true ∧ isQuote c = false

instance (name : String) : Decidable (IsPlainClass name) :=
  decidable_of_iff (name.toList.all fun c => isClassChar c && !isQuote c)
    (by simp [IsPlainClass])

/-- What a query asks of an attribute. -/
def value? (q : PathQuery) : Attribute → Option String
  | .text => q.text
  | .contentDesc => q.contentDesc
  | .resourcePart => q.resourcePart

theorem ext_value? {q r : PathQuery} (hn : q.className = r.className)
    (hv : ∀ a, q.value? a = r.value? a) : q = r := by
  obtain ⟨name, text, desc, part⟩ := q
  obtain ⟨name', text', desc', part'⟩ := r
  have ht : text = text' := hv .text
  have hd : desc = desc' := hv .contentDesc
  have hp : part = part' := hv .resourcePart
  subst hn ht hd hp
  rfl

theorem ofCondition_value? (name : String) (c : Condition) (b : Attribute) :
    (ofCondition name c).value? b =
      match c.quoted? with
      | some (a, value) => if a = b then some value else none
      | none => none := by
  cases c <;> cases b <;> rfl

theorem ofCondition_className (name : String) (c : Condition) :
    (ofCondition name c).className = name := by
  cases c <;> rfl

/-- What the search for an attribute finds in a written condition. -/
def Condition.found (c : Condition) (b : Attribute) : Option String :=
  match c.quoted? with
  | some (a, value) => if a = b then some value else search b.read? value.toList
  | none => none

/-- A value between two words. -/
theorem toList_between (before value after : String) :
    (before ++ value ++ after).toList = before.toList ++ (value.toList ++ after.toList) := by
  simp

theorem Condition.toList_write {c : Condition} {a : Attribute} {value : String}
    (h : c.quoted? = some (a, value)) : c.write.toList = a.form.spell value.toList := by
  cases c with
  | text s =>
      cases h
      exact toList_between "@text='" value "'"
  | contentDesc s =>
      cases h
      exact toList_between "@content-desc='" value "'"
  | resourcePart s =>
      cases h
      exact toList_between "contains(@resource-id,'" value "')"
  | position n => cases h

theorem not_isQuote_of_isDigit {c : Char} (h : c.isDigit = true) : isQuote c = false := by
  rw [isQuote, Bool.or_eq_false_iff, beq_eq_false_iff_ne, beq_eq_false_iff_ne]
  constructor <;> rintro rfl <;> cases h

/-- A position is written without a quote. -/
theorem Condition.quoteFree_write {c : Condition} (h : c.quoted? = none) :
    QuoteFree c.write.toList := by
  have word : QuoteFree "position()=".toList := by decide
  cases c with
  | position n =>
      have digits : QuoteFree (Number.natText n).toList := by
        intro d hd
        rw [Number.natText, String.toList_ofList] at hd
        exact not_isQuote_of_isDigit (Number.isDigit_of_mem_natDigits hd)
      have he : (Condition.position n).write.toList =
          "position()=".toList ++ (Number.natText n).toList := String.toList_append
      rw [he]
      exact word.append digits
  | text s => cases h
  | contentDesc s => cases h
  | resourcePart s => cases h

theorem toList_write (name : String) (c : Condition) :
    (write name c).toList = '/' :: '/' :: (name.toList ++ '[' :: (c.write.toList ++ [']'])) := by
  simp [write]

theorem readClass?_write {name : String} (plain : IsPlainClass name) (hne : name ≠ "")
    (c : Condition) : readClass? (write name c).toList = some name := by
  have blank : isBlank '/' = false := rfl
  have class_end : isClassChar '[' = false := rfl
  rw [toList_write, readClass?, List.dropWhile_cons_of_neg (by simp [blank])]
  simp only
  rw [List.takeWhile_append_of_pos fun d hd => (plain d hd).1]
  simp [class_end, hne]

/-- Each search over a written path finds what it finds in the condition. -/
theorem search_write {name : String} (plain : IsPlainClass name) {c : Condition}
    (quotable : c.IsQuotable) (b : Attribute) :
    search b.read? (write name c).toList = c.found b := by
  have slashes : QuoteFree ['/', '/'] := by decide
  have head_free : QuoteFree ('/' :: '/' :: name.toList) :=
    slashes.append fun d hd => (plain d hd).2
  have inside : search b.read? (write name c).toList = search b.read? (c.write.toList ++ [']']) := by
    rw [search, search, Attribute.read?_eq, toList_write]
    exact congrArg _ (Form.firstPlace_bracket head_free _)
  have bracket_free : QuoteFree [']'] := by decide
  rw [inside, Condition.found]
  cases hc : c.quoted? with
  | some quoted =>
      obtain ⟨a, value⟩ := quoted
      rw [Condition.toList_write hc]
      have := Attribute.search_spell a (quotable a value hc) bracket_free b
      rw [this, String.ofList_toList]
  | none =>
      have free : QuoteFree (c.write.toList ++ [']']) :=
        (Condition.quoteFree_write hc).append bracket_free
      rw [search, Attribute.read?_eq, Form.firstPlace_of_quoteFree free, Option.map_none]

/-- A written path is read as its class and what the searches find in its condition. -/
theorem parse?_write {name : String} (plain : IsPlainClass name) (hne : name ≠ "")
    {c : Condition} (quotable : c.IsQuotable) :
    ∃ q, parse? (write name c) = some q ∧ q.className = name ∧ ∀ b, q.value? b = c.found b := by
  refine ⟨_, congrArg (Option.map _) (readClass?_write plain hne c), rfl, ?_⟩
  intro b
  cases b with
  | text => exact search_write plain quotable .text
  | contentDesc => exact search_write plain quotable .contentDesc
  | resourcePart => exact search_write plain quotable .resourcePart

/-- Nothing but the written condition is found exactly when the value spells no other. -/
theorem found_eq_iff (name : String) (c : Condition) :
    (∀ b, c.found b = (ofCondition name c).value? b) ↔ c.IsAlone := by
  simp only [ofCondition_value?, Condition.found, Condition.IsAlone]
  cases c.quoted? with
  | none => simp
  | some quoted =>
      obtain ⟨a, value⟩ := quoted
      constructor
      · rintro h a' value' he b hb
        cases he
        have hs := h b
        simp only [if_neg (Ne.symm hb), search, Attribute.read?_eq, Option.map_eq_none_iff] at hs
        exact Form.firstPlace_eq_none_iff.mp hs
      · intro h b
        by_cases hb : a = b
        · simp [hb]
        · simp only [if_neg hb, search, Attribute.read?_eq, Option.map_eq_none_iff]
          exact Form.firstPlace_eq_none_iff.mpr (h a value rfl b (Ne.symm hb))

/-- A query is the one that was written exactly when the value spells no other condition. -/
theorem eq_ofCondition_iff {q : PathQuery} {name : String} {c : Condition}
    (hn : q.className = name) (hv : ∀ b, q.value? b = c.found b) :
    q = ofCondition name c ↔ c.IsAlone := by
  rw [← found_eq_iff name]
  constructor
  · rintro rfl b
    exact (hv b).symm
  · intro h
    exact ext_value? (hn.trans (ofCondition_className name c).symm) fun b => (hv b).trans (h b)

theorem toList_tailAfter (sep : Char) (s : String) :
    (Text.tailAfter sep s).toList = Text.afterLast sep s.toList := String.toList_ofList

theorem tailAfter_suffix (sep : Char) (s : String) :
    (Text.tailAfter sep s).toList <:+ s.toList := by
  rw [toList_tailAfter]
  exact Text.afterLast_suffix sep s.toList

theorem IsPlainClass.tailAfter {name : String} (plain : IsPlainClass name) (sep : Char) :
    IsPlainClass (Text.tailAfter sep name) :=
  fun c hc => plain c ((tailAfter_suffix sep name).mem hc)

end PathQuery

/-! ## The path of an element -/

namespace Generator

open PathQuery

variable {e : Element}

theorem quotable_eq_some_iff {v : Option String} {s : String} :
    quotable v = some s ↔ v = some s ∧ '\'' ∉ s.toList := by
  cases v with
  | none => simp [quotable]
  | some t =>
      simp only [quotable, Option.bind_some, Option.ite_none_left_eq_some, Option.some.injEq,
        List.contains_iff_mem]
      constructor
      · rintro ⟨h, rfl⟩
        exact ⟨rfl, h⟩
      · rintro ⟨rfl, h⟩
        exact ⟨h, rfl⟩

theorem quotableTail_eq_some {v : Option String} {tail : String} (h : quotableTail v = some tail) :
    ∃ id, v = some id ∧ '\'' ∉ id.toList ∧ tail = Text.tailAfter '/' id := by
  obtain ⟨id, hid, htail⟩ := Option.bind_eq_some_iff.mp h
  obtain ⟨hv, single⟩ := quotable_eq_some_iff.mp hid
  obtain ⟨-, htail⟩ := Option.ite_none_left_eq_some.mp htail
  exact ⟨id, hv, single, (Option.some.inj htail).symm⟩

/-- Where the condition of an element comes from. -/
theorem condition_spec (e : Element) :
    match condition e with
    | .text text => quotable e.text = some text
    | .contentDesc desc => quotable e.contentDesc = some desc
    | .resourcePart part => quotableTail e.resourceId = some part
    | .position n => n = positionOf e := by
  cases ht : quotable e.text with
  | some text => simp [condition, ht]
  | none =>
      cases hd : quotable e.contentDesc with
      | some desc => simp [condition, ht, hd]
      | none => cases hp : quotableTail e.resourceId <;> simp [condition, ht, hd, hp]

theorem isQuotable_condition (e : Element) : (condition e).IsQuotable := by
  intro a value h
  have spec := condition_spec e
  cases hc : condition e with
  | text text =>
      rw [hc] at spec h
      cases h
      exact (quotable_eq_some_iff.mp spec).2
  | contentDesc desc =>
      rw [hc] at spec h
      cases h
      exact (quotable_eq_some_iff.mp spec).2
  | resourcePart part =>
      rw [hc] at spec h
      cases h
      obtain ⟨id, -, single, rfl⟩ := quotableTail_eq_some spec
      exact fun hm => single ((tailAfter_suffix '/' id).mem hm)
  | position n =>
      rw [hc] at h
      cases h

/-- A node satisfies the class and the condition that are written for it. -/
theorem matchesNode_condition (n : Node) :
    (ofCondition (Text.tailAfter '.' n.className) (condition (.ofNode n))).matchesNode n = true := by
  have class_ok : Text.endsWith n.className (Text.tailAfter '.' n.className) = true :=
    List.isSuffixOf_iff_suffix.mpr (tailAfter_suffix '.' n.className)
  have spec := condition_spec (.ofNode n)
  cases hc : condition (.ofNode n) with
  | text text =>
      rw [hc] at spec
      have ht := (Text.nonBlank_eq_some_iff.mp (quotable_eq_some_iff.mp spec).1).2
      simp [ofCondition, matchesNode, holds, class_ok, ht]
  | contentDesc desc =>
      rw [hc] at spec
      have hd := (Text.nonBlank_eq_some_iff.mp (quotable_eq_some_iff.mp spec).1).2
      simp [ofCondition, matchesNode, holds, class_ok, hd]
  | resourcePart part =>
      rw [hc] at spec
      obtain ⟨id, hid, -, rfl⟩ := quotableTail_eq_some spec
      have hid := (Text.nonBlank_eq_some_iff.mp hid).2
      obtain ⟨before, hbefore⟩ := tailAfter_suffix '/' id
      have inside : Text.containsText n.resourceId (Text.tailAfter '/' id) = true :=
        (Text.occursIn_iff _ _).mpr ⟨before, [], by rw [hid, ← hbefore, List.append_nil]⟩
      simp [ofCondition, matchesNode, holds, class_ok, inside]
  | position k => simp [ofCondition, matchesNode, holds, class_ok]

/-- The path of an element is read as its class and at least its condition, with just
the value that was written. -/
theorem parse?_value_of_byPath {name : String} {s : Selector} (class_eq : e.className = some name)
    (plain : IsPlainClass name) (made : byPath e = some s) :
    ∃ q, parse? s.value = some q ∧ q.className = Text.tailAfter '.' name ∧
      ∀ b, q.value? b = (condition e).found b := by
  obtain ⟨name', hname, hne, hs⟩ := byPath_eq_some_iff.mp made
  cases class_eq.symm.trans hname
  rw [hs.value_eq]
  exact parse?_write (plain.tailAfter '.') hne (isQuotable_condition e)

/-- A node satisfies its own path when the value of the path spells no other condition. -/
theorem satisfies_of_isAlone {n : Node} {m : Matcher} {s : Selector}
    (plain : IsPlainClass n.className) (made : byPath (.ofNode n) = some s)
    (alone : (condition (.ofNode n)).IsAlone) : m.satisfies n s = true := by
  obtain ⟨name, hname, -, hs⟩ := byPath_eq_some_iff.mp made
  obtain ⟨-, rfl⟩ := Text.nonBlank_eq_some_iff.mp hname
  obtain ⟨q, hq, hclass, hfound⟩ := parse?_value_of_byPath hname plain made
  simp only [Matcher.satisfies, hs.kind_eq, hq]
  rw [(eq_ofCondition_iff hclass hfound).mpr alone]
  exact matchesNode_condition n

/-- The path of an element is read as its class and its condition, with just the value
that was written.  Nothing else is read exactly when the value spells no other
condition, and then the path of a node finds the node. -/
theorem parse?_byPath {name : String} {s : Selector} (class_eq : e.className = some name)
    (plain : IsPlainClass name) (made : byPath e = some s) :
    ∃ q, parse? s.value = some q ∧ q.className = Text.tailAfter '.' name ∧
      (∀ a value, (condition e).quoted? = some (a, value) → q.value? a = some value) ∧
      (q = ofCondition (Text.tailAfter '.' name) (condition e) ↔ (condition e).IsAlone) ∧
      ((condition e).IsAlone → ∀ n m, e = .ofNode n → Matcher.satisfies m n s = true) := by
  obtain ⟨q, hq, hname, hfound⟩ := parse?_value_of_byPath class_eq plain made
  refine ⟨q, hq, hname, ?_, eq_ofCondition_iff hname hfound, ?_⟩
  · intro a value h
    rw [hfound, Condition.found, h]
    exact if_pos rfl
  · rintro alone n m rfl
    obtain ⟨-, rfl⟩ := Text.nonBlank_eq_some_iff.mp class_eq
    exact satisfies_of_isAlone plain made alone

/-- A button that shows `OK`. -/
def okButton : Node := { className := "android.widget.Button", text := "OK" }

/-- The path of the button. -/
def okPath : Selector :=
  ⟨.xpath, "//Button[@text='OK']", SelectorKind.xpath.baseConfidence, by decide, by decide⟩

theorem parse?_byPath_okButton :
    (Element.ofNode okButton).className = some "android.widget.Button" ∧
      IsPlainClass "android.widget.Button" ∧ byPath (.ofNode okButton) = some okPath ∧
      ∃ q, parse? okPath.value = some q ∧ q.className = "Button" ∧
        (∀ a value, (condition (.ofNode okButton)).quoted? = some (a, value) →
          q.value? a = some value) ∧
        (q = ofCondition "Button" (condition (.ofNode okButton)) ↔
          (condition (.ofNode okButton)).IsAlone) ∧
        ((condition (.ofNode okButton)).IsAlone →
          ∀ n m, Element.ofNode okButton = .ofNode n → Matcher.satisfies m n okPath = true) :=
  have class_eq : (Element.ofNode okButton).className = some "android.widget.Button" := by decide
  have made : byPath (.ofNode okButton) = some okPath := by decide +kernel
  ⟨class_eq, by decide, made, parse?_byPath class_eq (by decide) made⟩

/-- A button whose text spells a description. -/
def spellingButton : Node :=
  { className := "android.widget.Button", text := "@content-desc=\"x\"" }

/-- The path of that button. -/
def spellingPath : Selector :=
  ⟨.xpath, "//Button[@text='@content-desc=\"x\"']", SelectorKind.xpath.baseConfidence,
    by decide, by decide⟩

/-- The path of a node may ask for a description that the node does not have, and then
it does not find the node. -/
theorem byPath_spellingButton :
    byPath (.ofNode spellingButton) = some spellingPath ∧
      parse? spellingPath.value =
        some ⟨"Button", some "@content-desc=\"x\"", some "x", none⟩ ∧
      ∀ m, Matcher.satisfies m spellingButton spellingPath = false := by
  have read : parse? "//Button[@text='@content-desc=\"x\"']" =
      some ⟨"Button", some "@content-desc=\"x\"", some "x", none⟩ := by decide +kernel
  refine ⟨by decide +kernel, read, fun m => ?_⟩
  simp only [Matcher.satisfies, spellingPath, read]
  decide

end Generator

end UiReplay
