import UiReplay.Proofs.Replay.Acceptance
import UiReplay.Proofs.Selector.Leading
import UiReplay.Proofs.Selector.Search

/-!
# The node that a step is done on

A device may always give the same tree and accept every action (`Surroundings.Accepts`).
On such a device nothing but a cancel fails, so it is known what a computation brings and
what it asks the device for (`Engine.Brings`).

A search along a chain then passes over the selectors that lead to no node of use, without
a request, and ends with the first that leads to one (`Engine.brings_firstHit`).  So a step
that looks for a node fetches the tree once and sends what addresses this node
(`Engine.Addresses`): the middle of its rectangle, a point of it, or else its index.
`Engine.resultOf_addresses` says so of taps, long taps, typing and scrolls, and that the
node is the one that the search of the whole chain finds if that one is of use.  This
search is what a wait reports (`Engine.resultOf_awaits`).
-/

namespace UiReplay

/-! ## Aiming at a node -/

/-- A point lies in a rectangle. -/
structure Rect.Holds (r : Rect) (p : Point) : Prop where
  left : r.left ≤ p.x
  right : p.x ≤ r.right
  top : r.top ≤ p.y
  bottom : p.y ≤ r.bottom

theorem Rect.le_middle {a b : Int} (h : a ≤ b) : a ≤ middle a b ∧ middle a b ≤ b := by
  rw [middle, Int.tdiv_eq_ediv, show Int.sign 2 = 1 from rfl]
  split <;> omega

/-- The middle of a rectangle that was read lies in it. -/
theorem Rect.holds_center {text : String} {r : Rect} (h : parse? text = some r) :
    r.Holds r.center := by
  obtain ⟨-, -, horizontal, vertical⟩ := of?_eq_some_iff.mp (of?_of_parse? h)
  exact ⟨(le_middle horizontal).1, (le_middle horizontal).2, (le_middle vertical).1,
    (le_middle vertical).2⟩

/-- The ways to aim at a node: at the middle of its rectangle, or at its index if it has no
rectangle. -/
inductive Node.Aim (n : Node) : PressTarget → Prop
  | middle {r : Rect} (rect : n.rect? = some r) (inside : r.Holds r.center) :
      n.Aim (.point r.center)
  | index {i : Int} (bare : n.rect? = none) (index : n.index = some i) : n.Aim (.node i)

/-- Whether a node has a place to press, a rectangle or else an index. -/
def Node.isPressable (n : Node) : Bool := n.rect?.isSome || n.index.isSome

theorem Node.exists_aim {n : Node} (h : n.isPressable = true) :
    (∃ r, n.rect? = some r ∧ n.Aim (.point r.center)) ∨
      ∃ i, n.rect? = none ∧ n.index = some i ∧ n.Aim (.node i) := by
  cases hr : n.rect? with
  | some r => exact .inl ⟨r, rfl, .middle hr (Rect.holds_center hr)⟩
  | none =>
      rw [isPressable, hr, Option.isSome_none, Bool.false_or] at h
      obtain ⟨i, hi⟩ := Option.isSome_iff_exists.mp h
      exact .inr ⟨i, rfl, hi, .index hr hi⟩

theorem Node.rect?_eq_none_of_not_isPressable {n : Node} (h : n.isPressable = false) :
    n.rect? = none ∧ n.index = none := by
  simpa [isPressable] using h

/-- Whether an action looks for a node, since it says no coordinates. -/
def Action.seeks : Action → Bool
  | .tap d | .longTap d => d.point?.isNone
  | .scroll d => d.path?.isNone
  | .inputText _ => true
  | .swipe _ | .wait _ | .unusable _ => false

/-- Whether a node is of use for an action. -/
def Action.canAddress : Action → Node → Bool
  | .tap _, n | .longTap _, n | .inputText _, n => n.isPressable
  | .scroll _, n => n.index.isSome
  | .swipe _, _ | .wait _, _ | .unusable _, _ => false

/-! ## Devices that do as they are told -/

/-- The device always gives this tree and accepts every action. -/
structure Surroundings.Accepts {σ : Type} (w : Surroundings σ) (tree : List Node) : Prop where
  /-- It gives the tree. -/
  gives : ∀ c around, ∃ state : DeviceState,
    (w.respond .state c around).1.answer = .ok state ∧ state.tree = tree
  /-- It accepts every action. -/
  performs : ∀ a c around, (w.respond (.perform a) c around).1.answer = .ok ()

namespace Engine

variable {σ α β : Type}

/-- Unless it is cancelled, a computation brings something that fits, and it asks the device
for just these requests, in order. -/
def Brings (x : Attempt σ α) (fits : α → Prop) (requests : List Request) : Prop :=
  Sends x fun outcome sent => outcome = .error .cancelled ∨
    ∃ a, outcome = .ok a ∧ fits a ∧ sent.map Suspension.request = requests

variable {P : α → Prop} {Q : β → Prop} {rs rs' : List Request} {x : Attempt σ α}

theorem brings_pure {a : α} (h : P a) : Brings (pure a : Attempt σ α) P [] :=
  sends_outcome (.inr ⟨a, rfl, h, rfl⟩)

theorem Brings.mono {P' : α → Prop} (h : Brings x P rs) (hP : ∀ a, P a → P' a) :
    Brings x P' rs := by
  refine Sends.mono h ?_
  rintro outcome sent (cancelled | ⟨a, rfl, fits, hrs⟩)
  · exact .inl cancelled
  · exact .inr ⟨a, rfl, hP a fits, hrs⟩

/-- One computation after the other, whatever would be done about a failure of the first. -/
theorem Brings.handle {k : Except StepError α → Act σ (Except StepError β)} (hx : Brings x P rs)
    (hcancel : k (.error .cancelled) = pure (.error .cancelled))
    (hk : ∀ a, P a → Brings (ExceptT.mk (k (.ok a))) Q rs') :
    Brings (ExceptT.mk (x.run >>= k)) Q (rs ++ rs') := by
  refine Sends.handle hx ?_
  rintro outcome first (rfl | ⟨a, rfl, fits, rfl⟩)
  · rw [hcancel]
    exact sends_outcome (.inl rfl)
  · refine Sends.mono (hk a fits) ?_
    rintro outcome rest (cancelled | ⟨b, rfl, fits, rfl⟩)
    · exact .inl cancelled
    · exact .inr ⟨b, rfl, fits, List.map_append⟩

/-- What comes last asks for nothing. -/
theorem Brings.finish {k : Except StepError α → Act σ (Except StepError β)} (hx : Brings x P rs)
    (hcancel : k (.error .cancelled) = pure (.error .cancelled))
    (hk : ∀ a, P a → Brings (ExceptT.mk (k (.ok a))) Q []) :
    Brings (ExceptT.mk (x.run >>= k)) Q rs := by
  rw [← List.append_nil rs]
  exact hx.handle hcancel hk

/-- One request, and what comes after it. -/
theorem Brings.bind {r : Request} {f : α → Attempt σ β} (hx : Brings x P [r])
    (hf : ∀ a, P a → Brings (f a) Q rs) : Brings (x >>= f) Q (r :: rs) :=
  Brings.handle (k := ExceptT.bindCont f) hx rfl hf

theorem Brings.bind_finish {f : α → Attempt σ β} (hx : Brings x P rs)
    (hf : ∀ a, P a → Brings (f a) Q []) : Brings (x >>= f) Q rs :=
  Brings.finish (k := ExceptT.bindCont f) hx rfl hf

/-- What comes after a computation that asks for nothing. -/
theorem Brings.after {f : α → Attempt σ β} (hx : Sends x Silent)
    (hf : ∀ a, Brings (f a) Q rs) : Brings (x >>= f) Q rs :=
  hx.after hf (.inl rfl)

/-! ## Requests -/

theorem brings_ask {w : Surroundings σ} {r : Request} (device : r.isDevice = true)
    {fits : r.Answer → Prop} (answers : ∀ c around, fits (w.respond r c around).1.answer) :
    Brings (w.ask r).sure fits [r] := by
  intro run
  obtain ⟨x, got, hsent⟩ := Run.sent_ask w r run
  rw [device] at hsent
  refine ⟨[x], hsent, .inr ⟨_, rfl, answers run.control run.around, ?_⟩⟩
  rw [List.map_singleton, got.request]

variable {g : Engine σ}

/-- A request that is answered is sent once. -/
theorem brings_retry (what : String) {call : Act σ (Except DeviceError α)}
    (hcall : Brings call.sure (fun answer => ∃ a, answer = .ok a ∧ P a) rs) (left : Nat) :
    Brings (g.retry what call left) P rs := by
  cases left with
  | zero =>
      refine .after sends_checkCancelled fun _ => hcall.bind_finish ?_
      rintro _ ⟨a, rfl, fits⟩
      exact brings_pure fits
  | succ left =>
      refine .after sends_checkCancelled fun _ => hcall.bind_finish ?_
      rintro _ ⟨a, rfl, fits⟩
      exact brings_pure fits

variable {tree : List Node}

theorem brings_perform (accepts : g.surroundings.Accepts tree) (a : DeviceAction) :
    Brings (g.perform a) (fun _ => True) [.perform a] :=
  brings_retry _ (brings_ask rfl fun c around => ⟨(), accepts.performs a c around, trivial⟩) _

theorem brings_fetchTree (accepts : g.surroundings.Accepts tree) :
    Brings g.fetchTree (· = tree) [.state] := by
  have asks := brings_retry (g := g) DeviceState.endpoint
    (brings_ask (r := .state) rfl accepts.gives) (g.attempts - 1)
  refine asks.bind_finish fun state given => ?_
  exact .after (sends_sure (Run.sent_see _)) fun _ => brings_pure given

/-! ## Selectors in order -/

/-- A search passes over the selectors that bring nothing and ends with the first that brings
something, by induction on what comes before it. -/
theorem brings_firstHitFrom (c : Chain) {attempt : Selector → Attempt σ (Option α)}
    {before after : List Selector} {s : Selector}
    (hbefore : ∀ t ∈ before, Brings (attempt t) (· = none) [])
    (hs : Brings (attempt s) (fun found => found.isSome) rs) (i : Nat)
    (last : Option StepError) :
    Brings (c.firstHitFrom attempt (before ++ s :: after) i last)
      (fun hit => hit.selector = s ∧ hit.index = i + before.length) rs := by
  induction before generalizing i last with
  | nil =>
      refine Brings.finish hs rfl ?_
      intro found hfound
      obtain ⟨a, rfl⟩ := Option.isSome_iff_exists.mp hfound
      exact brings_pure ⟨rfl, rfl⟩
  | cons t before ih =>
      rw [← List.nil_append rs]
      refine Brings.handle (hbefore t List.mem_cons_self) rfl ?_
      rintro _ rfl
      refine (ih (fun u hu => hbefore u (List.mem_cons_of_mem t hu)) (i + 1) last).mono ?_
      rintro hit ⟨hselector, hindex⟩
      refine ⟨hselector, ?_⟩
      rw [hindex, List.length_cons]
      omega

/-- What a step reports that was done through a selector of its chain. -/
structure Through (s : Selector) (i : Nat) (o : StepOutcome) : Prop where
  selector : o.selector = some (s, i)
  fallbackUsed : o.fallbackUsed = decide (0 < i)

variable {c : Chain} {useful : Node → Bool} {i position : Nat} {s : Selector} {n : Node}

/-- The search along a chain ends with the first selector that leads to a useful node. -/
theorem brings_firstHit {attempt : Selector → Attempt σ (Option α)}
    (leads : c.LeadsFirst g.matcher useful tree i s position n)
    (misses : ∀ t, g.matcher.leadsTo? useful tree t = none → Brings (attempt t) (· = none) [])
    (hits : Brings (attempt s) (fun found => found.isSome) rs) :
    Brings (c.firstHit attempt) (fun hit => ∀ deed, Through s i (hit.outcome deed)) rs := by
  obtain ⟨before, after, hsplit, rfl, hbefore⟩ := leads.split
  rw [Chain.firstHit, hsplit]
  refine (brings_firstHitFrom c (fun t ht => misses t (hbefore t ht)) hits 0 none).mono ?_
  rintro hit ⟨rfl, hindex⟩ deed
  rw [Nat.zero_add] at hindex
  rw [← hindex]
  exact ⟨rfl, rfl⟩

/-- The recorded rectangle is not used when a selector leads to a useful node. -/
theorem brings_locate {attempt : Selector → Attempt σ (Option α)} {deed : α → Deed}
    {note : Point → Note} {atPoint : Point → Attempt σ Deed}
    (leads : c.LeadsFirst g.matcher useful tree i s position n)
    (misses : ∀ t, g.matcher.leadsTo? useful tree t = none → Brings (attempt t) (· = none) [])
    (hits : Brings (attempt s) (fun found => found.isSome) rs) :
    Brings (locate c attempt deed note atPoint) (Through s i) rs :=
  Brings.finish (brings_firstHit leads misses hits) rfl fun _ through =>
    brings_pure (through _)

/-! ## What addresses a node -/

/-- The actions that address a node for what a step does. -/
inductive Addresses (g : Engine σ) (n : Node) : Action → List DeviceAction → Prop
  | tapAt {d : TapData} {p : Point} (aim : n.Aim (.point p)) : g.Addresses n (.tap d) [.tap p]
  | tapOn {d : TapData} {i : Int} (aim : n.Aim (.node i)) : g.Addresses n (.tap d) [.click i]
  | holdAt {d : TapData} {p : Point} (aim : n.Aim (.point p)) :
      g.Addresses n (.longTap d)
        [.longPress p (if 0 < d.durationMs then d.durationMs else g.config.longPressMs)]
  | holdOn {d : TapData} {i : Int} (aim : n.Aim (.node i)) :
      g.Addresses n (.longTap d) [.longClick i]
  | typeAt {d : InputTextData} {p : Point} (aim : n.Aim (.point p)) :
      g.Addresses n (.inputText d) [.tap p, .setText n.index (d.textFor n)]
  | typeOn {d : InputTextData} {i : Int} (aim : n.Aim (.node i)) :
      g.Addresses n (.inputText d) [.click i, .setText n.index (d.textFor n)]
  | scroll {d : SwipeData} {i : Int} (index : n.index = some i) :
      g.Addresses n (.scroll d) [.scroll i (.towards d.direction)]

/-- A press of a node of use is one action, which aims at the node. -/
theorem exists_press {n : Node} (h : n.isPressable = true) (long : Bool) (d : TapData) :
    ∃ action target, g.pressOn? long d n = some (action, target) ∧
      g.Addresses n (if long then .longTap d else .tap d) [action] := by
  rcases Node.exists_aim h with ⟨r, hr, aim⟩ | ⟨i, hr, hi, aim⟩
  · refine ⟨_, _, by rw [pressOn?, hr], ?_⟩
    cases long with
    | true => exact .holdAt aim
    | false => exact .tapAt aim
  · refine ⟨_, _, by rw [pressOn?, hr, hi]; rfl, ?_⟩
    cases long with
    | true => exact .holdOn aim
    | false => exact .tapOn aim

theorem exists_focus {n : Node} (h : n.isPressable = true) (d : InputTextData) :
    ∃ focus, n.focus? = some focus ∧
      g.Addresses n (.inputText d) [focus, .setText n.index (d.textFor n)] := by
  rcases Node.exists_aim h with ⟨r, hr, aim⟩ | ⟨i, hr, hi, aim⟩
  · exact ⟨_, by rw [Node.focus?, hr], .typeAt aim⟩
  · exact ⟨_, by rw [Node.focus?, hr, hi]; rfl, .typeOn aim⟩

theorem pressOn?_eq_none {n : Node} (h : n.isPressable = false) (long : Bool) (d : TapData) :
    g.pressOn? long d n = none := by
  obtain ⟨hr, hi⟩ := Node.rect?_eq_none_of_not_isPressable h
  rw [pressOn?, hr, hi]
  rfl

theorem focus?_eq_none {n : Node} (h : n.isPressable = false) : n.focus? = none := by
  obtain ⟨hr, hi⟩ := Node.rect?_eq_none_of_not_isPressable h
  rw [Node.focus?, hr, hi]
  rfl

/-! ## One selector -/

theorem brings_pressFound_nothing (long : Bool) (d : TapData) {t : Selector}
    (h : g.matcher.leadsTo? Node.isPressable tree t = none) :
    Brings (g.pressFound long d tree t) (· = none) [] := by
  have nothing : (g.matcher.findNode tree t).bind (fun found => g.pressOn? long d found.2) = none :=
    Option.bind_eq_none_iff.mpr fun found hfound =>
      pressOn?_eq_none (Matcher.useless_of_leadsTo?_eq_none h hfound) long d
  rw [pressFound, nothing]
  exact brings_pure rfl

theorem brings_pressFound (accepts : g.surroundings.Accepts tree) {long : Bool} {d : TapData}
    {action : DeviceAction} {target : PressTarget}
    (found : g.matcher.findNode tree s = some (position, n))
    (press : g.pressOn? long d n = some (action, target)) :
    Brings (g.pressFound long d tree s) (fun found => found.isSome) [.perform action] := by
  rw [pressFound, found, Option.bind_some, press]
  exact (brings_perform accepts action).bind_finish fun _ _ => brings_pure rfl

theorem brings_typeFound_nothing (d : InputTextData) {t : Selector}
    (h : g.matcher.leadsTo? Node.isPressable tree t = none) :
    Brings (g.typeFound d tree t) (· = none) [] := by
  unfold typeFound
  split
  · exact brings_pure rfl
  · next position n found =>
      rw [focus?_eq_none (Matcher.useless_of_leadsTo?_eq_none h found)]
      exact brings_pure rfl

theorem brings_typeFound (accepts : g.surroundings.Accepts tree) {d : InputTextData}
    {focus : DeviceAction} (found : g.matcher.findNode tree s = some (position, n))
    (hfocus : n.focus? = some focus) :
    Brings (g.typeFound d tree s) (fun found => found.isSome)
      [.perform focus, .perform (.setText n.index (d.textFor n))] := by
  rw [typeFound, found]
  dsimp only
  rw [hfocus]
  refine (brings_perform accepts focus).bind fun _ _ => ?_
  exact (brings_perform accepts _).bind_finish fun _ _ => brings_pure rfl

theorem brings_scrollFound_nothing (way : ScrollWay) {t : Selector}
    (h : g.matcher.leadsTo? (fun n => n.index.isSome) tree t = none) :
    Brings (g.scrollFound way tree t) (· = none) [] := by
  have nothing : (g.matcher.findNode tree t).bind (fun found => found.2.index) = none :=
    Option.bind_eq_none_iff.mpr fun found hfound =>
      Option.not_isSome_iff_eq_none.mp
        (Bool.eq_false_iff.mp (Matcher.useless_of_leadsTo?_eq_none h hfound))
  rw [scrollFound, nothing]
  exact brings_pure rfl

theorem brings_scrollFound (accepts : g.surroundings.Accepts tree) {way : ScrollWay} {index : Int}
    (found : g.matcher.findNode tree s = some (position, n)) (hindex : n.index = some index) :
    Brings (g.scrollFound way tree s) (fun found => found.isSome)
      [.perform (.scroll index way)] := by
  rw [scrollFound, found, Option.bind_some, hindex]
  exact (brings_perform accepts _).bind_finish fun _ _ => brings_pure rfl

/-! ## Steps -/

theorem brings_tap (accepts : g.surroundings.Accepts tree) (long : Bool) {d : TapData}
    (free : d.point? = none)
    (leads : c.LeadsFirst g.matcher Node.isPressable tree i s position n) :
    ∃ actions, g.Addresses n (if long then .longTap d else .tap d) actions ∧
      Brings (g.tap (some c) long d) (Through s i) (.state :: actions.map .perform) := by
  obtain ⟨action, target, press, addresses⟩ :=
    exists_press (g := g) leads.node_useful long d
  refine ⟨[action], addresses, ?_⟩
  simp only [tap, free]
  refine (brings_fetchTree accepts).bind ?_
  rintro _ rfl
  exact brings_locate leads (fun t => brings_pressFound_nothing long d)
    (brings_pressFound accepts leads.found press)

theorem brings_inputText (accepts : g.surroundings.Accepts tree) (d : InputTextData)
    (leads : c.LeadsFirst g.matcher Node.isPressable tree i s position n) :
    ∃ actions, g.Addresses n (.inputText d) actions ∧
      Brings (g.inputText (some c) d) (Through s i) (.state :: actions.map .perform) := by
  obtain ⟨focus, hfocus, addresses⟩ := exists_focus (g := g) leads.node_useful d
  refine ⟨_, addresses, ?_⟩
  refine (brings_fetchTree accepts).bind ?_
  rintro _ rfl
  exact brings_locate leads (fun t => brings_typeFound_nothing d)
    (brings_typeFound accepts leads.found hfocus)

theorem brings_scroll (accepts : g.surroundings.Accepts tree) {d : SwipeData}
    (free : d.path? = none)
    (leads : c.LeadsFirst g.matcher (fun n => n.index.isSome) tree i s position n) :
    ∃ actions, g.Addresses n (.scroll d) actions ∧
      Brings (g.scroll (some c) d) (Through s i) (.state :: actions.map .perform) := by
  obtain ⟨index, hindex⟩ := Option.isSome_iff_exists.mp leads.node_useful
  refine ⟨_, .scroll hindex, ?_⟩
  have search : Brings (do
      let tree ← g.fetchTree
      c.firstHit (g.scrollFound (ScrollWay.towards d.direction) tree))
        (fun hit => ∀ deed, Through s i (hit.outcome deed))
        [.state, .perform (.scroll index (.towards d.direction))] := by
    refine (brings_fetchTree accepts).bind ?_
    rintro _ rfl
    exact brings_firstHit leads (fun t => brings_scrollFound_nothing _)
      (brings_scrollFound accepts leads.found hindex)
  simp only [scroll, free]
  exact Brings.finish search rfl fun _ through => brings_pure (through _)

/-- A step that looks for a node addresses the node to which the first selector leads. -/
theorem brings_carryOut (accepts : g.surroundings.Accepts tree) {step : Step}
    (chain : step.selector = some c) (seeks : step.action.seeks = true)
    (leads : c.LeadsFirst g.matcher step.action.canAddress tree i s position n) :
    ∃ actions, g.Addresses n step.action actions ∧
      Brings (g.carryOut step) (Through s i) (.state :: actions.map .perform) := by
  rw [carryOut, chain]
  cases h : step.action with
  | tap d =>
      rw [h] at seeks leads
      exact brings_tap accepts false (Option.isNone_iff_eq_none.mp seeks) leads
  | longTap d =>
      rw [h] at seeks leads
      exact brings_tap accepts true (Option.isNone_iff_eq_none.mp seeks) leads
  | inputText d =>
      rw [h] at leads
      exact brings_inputText accepts d leads
  | scroll d =>
      rw [h] at seeks leads
      exact brings_scroll accepts (Option.isNone_iff_eq_none.mp seeks) leads
  | swipe d => rw [h] at seeks; cases seeks
  | wait d => rw [h] at seeks; cases seeks
  | unusable r => rw [h] at seeks; cases seeks

/-- From a run to a result and the run after it, a step succeeds through a selector of its
chain, and it asks the device for just these requests, in order. -/
structure DoneThrough (run : Run σ) (x : Option StepResult × Run σ) (s : Selector) (i : Nat)
    (requests : List Request) : Prop where
  result : ∃ r, x.1 = some r ∧ r.status = .success ∧ r.selector = some (s, i) ∧
    r.fallbackUsed = decide (0 < i)
  sent : ∃ sent, x.2.sent = run.sent ++ sent ∧ sent.map Suspension.request = requests

/-- A step that was not cancelled has the result of the outcome of its computation. -/
theorem resultOf_of_sends {step : Step}
    {fits : Except StepError StepOutcome → List Suspension → Prop} (enabled : step.enabled = true)
    (sends : Sends (g.execute step) fun outcome sent =>
      outcome = .error .cancelled ∨ fits outcome sent)
    (total index : Nat) (name : String) (run : Run σ)
    (going : (g.resultOf total index name step run).2.control.isCancelled = false) :
    ∃ outcome durationMs sent,
      (g.resultOf total index name step run).1 =
          some (.ofOutcome step index name durationMs outcome) ∧
        (g.resultOf total index name step run).2.sent = run.sent ++ sent ∧ fits outcome sent := by
  rw [resultOf_of_enabled enabled] at going ⊢
  have works := works_execute (g := g) step (Run.note (.step (index + 1) total name) run).2
  obtain ⟨sent, hsent, hfits⟩ := sends (Run.note (.step (index + 1) total name) run).2
  rw [show (Run.note (.step (index + 1) total name) run).2.sent = run.sent from
    Run.sent_publish _ _] at hsent
  have notCancelled : ((g.execute step).run (Run.note (.step (index + 1) total name) run).2).1 ≠
      .error .cancelled := by
    intro cancel
    cases (works.honest cancel).symm.trans going
  exact ⟨_, _, sent, StepResult.ofEnd?_eq_some notCancelled, hsent,
    hfits.resolve_left notCancelled⟩

/-- A step that was not cancelled has the result that its computation brings. -/
theorem resultOf_of_brings {step : Step} (enabled : step.enabled = true)
    (brings : Brings (g.execute step) (Through s i) rs) (total index : Nat) (name : String)
    (run : Run σ)
    (going : (g.resultOf total index name step run).2.control.isCancelled = false) :
    DoneThrough run (g.resultOf total index name step run) s i rs := by
  obtain ⟨outcome, durationMs, sent, hresult, hsent, o, rfl, through, hrs⟩ :=
    resultOf_of_sends enabled brings total index name run going
  exact ⟨⟨_, hresult, rfl, through.selector, through.fallbackUsed⟩, sent, hsent, hrs⟩

/-- On a device that accepts every action, let a selector be the first of the chain of a step
that leads to a node of use for its action.  If the step is valid, says no coordinates and is
not cancelled, then it succeeds through this selector, and all it asks the device for is the
tree, once, and what addresses this node.  The search of the whole chain finds the same node
through the same selector, if what it finds is of use. -/
theorem resultOf_addresses (accepts : g.surroundings.Accepts tree) {step : Step}
    (enabled : step.enabled = true) (valid : step.validate = .ok ())
    (chain : step.selector = some c) (seeks : step.action.seeks = true)
    (leads : c.LeadsFirst g.matcher step.action.canAddress tree i s position n)
    (total index : Nat) (name : String) (run : Run σ)
    (going : (g.resultOf total index name step run).2.control.isCancelled = false) :
    (∃ actions, g.Addresses n step.action actions ∧
      DoneThrough run (g.resultOf total index name step run) s i
        (.state :: actions.map .perform)) ∧
    ∀ found, g.matcher.find tree c = some found → step.action.canAddress found.node = true →
      found.node = n ∧ found.position = position ∧ found.selector = s ∧
        found.selectorIndex = i := by
  constructor
  · obtain ⟨actions, addresses, brings⟩ := brings_carryOut accepts chain seeks leads
    rw [← execute_of_validate valid] at brings
    exact ⟨actions, addresses, resultOf_of_brings enabled brings total index name run going⟩
  · intro found hfind useful
    obtain ⟨hi, hs, hposition, hn⟩ := (Chain.leadsFirst_of_find hfind useful).unique leads
    exact ⟨hn, hposition, hs, hi⟩

end Engine

/-- A device that stays in a state and accepts every action. -/
def Surroundings.steady (state : DeviceState) : Surroundings Unit where
  respond
    | .state, _, _ => ({ answer := .ok state }, ())
    | .perform _, _, _ => ({ answer := .ok () }, ())
    | .sleep _, _, _ => ({ answer := () }, ())
    | .gate, _, _ => ({ answer := [] }, ())

theorem Surroundings.accepts_steady (state : DeviceState) : (steady state).Accepts state.tree where
  gives _ _ := ⟨state, rfl, rfl⟩
  performs _ _ _ := rfl

/-- The node that shows a text. -/
def Node.confirm : Node := { index := some 7, text := "Confirm", bounds := "[0,0][100,40]" }

/-- A node of no use, with the node that shows a text below it. -/
def Node.dialog : Node := { resourceId := "ok", children := [.confirm] }

/-- The selector that finds the node that shows a text. -/
def Selector.confirm : Selector :=
  ⟨.text, "Confirm", SelectorKind.text.baseConfidence, by decide,
    SelectorKind.text.inUnit_baseConfidence⟩

/-- A chain whose first selector finds the node of no use. -/
def Chain.confirm : Chain where
  primary := ⟨.resourceId, "ok", SelectorKind.resourceId.baseConfidence, by decide,
    SelectorKind.resourceId.inUnit_baseConfidence⟩
  fallbacks := [.confirm]

/-- A tap along this chain. -/
def Step.confirm : Step where
  id := ⟨1⟩
  action := .tap {}
  selector := some .confirm

/-- An engine on a device that shows the two nodes. -/
def Engine.confirming : Engine Unit where
  surroundings := .steady { tree := [.dialog] }

/-- A run that has just started. -/
def Run.begun : Run Unit where
  control := .fresh
  screen := ⟨0, 0, 1080, 2400⟩
  around := ()

theorem Chain.leadsFirst_confirm :
    Chain.confirm.LeadsFirst {} Step.confirm.action.canAddress [.dialog] 1 .confirm 1 .confirm where
  here := rfl
  leads := by
    rw [Matcher.leadsTo?, Matcher.findNode, Node.flatten_eq_preorders]
    rfl
  first := by
    intro j lt t ht
    obtain rfl : j = 0 := by omega
    obtain rfl : Chain.confirm.primary = t := Option.some.inj ht
    exact Option.isNone_iff_eq_none.mp (by decide +kernel)

theorem Engine.going_confirm :
    (Engine.confirming.resultOf 1 0 "Confirm" .confirm .begun).2.control.isCancelled = false := by
  decide +kernel

theorem Engine.resultOf_addresses_confirm :
    (∃ actions, Engine.confirming.Addresses .confirm Step.confirm.action actions ∧
      Engine.DoneThrough .begun (Engine.confirming.resultOf 1 0 "Confirm" .confirm .begun)
        .confirm 1 (.state :: actions.map .perform)) ∧
    ∀ found, Engine.confirming.matcher.find [.dialog] .confirm = some found →
      Step.confirm.action.canAddress found.node = true →
        found.node = .confirm ∧ found.position = 1 ∧ found.selector = .confirm ∧
          found.selectorIndex = 1 :=
  Engine.resultOf_addresses (Surroundings.accepts_steady _) rfl rfl rfl rfl
    Chain.leadsFirst_confirm 1 0 "Confirm" .begun Engine.going_confirm

namespace Engine

variable {σ : Type} {g : Engine σ} {tree : List Node} {c : Chain}

/-! ## Waits -/

/-- A wait for an element that is there looks once and reports the search of the chain. -/
theorem brings_lookUntil (accepts : g.surroundings.Accepts tree) {found : Match}
    (hfind : g.matcher.find tree c = some found) (ms deadline : Nat) {left : Nat}
    (looks : 0 < left) :
    Brings (g.lookUntil c ms deadline left) (Through found.selector found.selectorIndex)
      [.state] := by
  cases left with
  | zero => cases looks
  | succ left =>
      refine (brings_fetchTree accepts).bind_finish ?_
      rintro _ rfl
      rw [hfind]
      exact brings_pure ⟨rfl, rfl⟩

/-- A wait for an element that is there succeeds through the selector that the search of the
chain reports, and asks the device for the tree, once. -/
theorem resultOf_awaits (accepts : g.surroundings.Accepts tree) {step : Step} {d : WaitData}
    (enabled : step.enabled = true) (chain : step.selector = some c)
    (action : step.action = .wait d) (awaits : d.waitForElement = true)
    (looks : 0 < g.looks d.durationMs) {found : Match}
    (hfind : g.matcher.find tree c = some found) (total index : Nat) (name : String)
    (run : Run σ)
    (going : (g.resultOf total index name step run).2.control.isCancelled = false) :
    DoneThrough run (g.resultOf total index name step run) found.selector found.selectorIndex
      [.state] := by
  have valid : step.validate = .ok () := by rw [Step.validate, action]
  have brings : Brings (g.execute step) (Through found.selector found.selectorIndex) [.state] := by
    rw [execute_of_validate valid, carryOut, action]
    simp only [wait, awaits, chain]
    exact .after (sends_sure fun _ => rfl) fun now => brings_lookUntil accepts hfind _ _ looks
  exact resultOf_of_brings enabled brings total index name run going

end Engine

end UiReplay
