import Itinerary.Line.StyleTable
import Mathlib.Data.List.Induction

/-!
# Which style a line gets

Styles are added for slots: for a product in a network, or for one labelled line of it. A look-up
asks for the slot of the line, then for that of its product in its network, then for that of its
product in no network, and gets the style that was last added for the first of them that has any.

The table does not keep slots, it keeps texts. The key of a slot has a front, which is network and
product, and a back, which is the label. Two slots have one key if one of them runs into the other:
its front is how the network of the other one starts, and its label makes up for what is behind
(`Slot.key_eq_iff`). The line `S` of the buses of `A` and the suburban trains of `A|B` are such a
pair. So what a look-up gets is the style that was last added for any slot with the key
(`StyleTable.lookup_falls_back`).

Only a network that holds a bar is run into, so without bars in the names of networks the table is
one of slots. Labels may hold as many bars as they like.
-/

namespace Itinerary.StyleTable

/-! ## Slots -/

/-- What a style is added for: the lines of a product in a network, or one labelled line among them.
An empty network is none. -/
structure Slot where
  network : String
  product : Option Product
  label : Option String
  deriving DecidableEq

namespace Slot

variable {a b : Slot}

/-- The text that a table knows a slot by. -/
def key (s : Slot) : String := StyleTable.key (some s.network) s.product s.label

/-- The key without the label. -/
def front (s : Slot) : List Char := s.network.toList ++ ['|', Product.codeOf s.product]

/-- What the label adds to the key. -/
def back (s : Slot) : List Char :=
  match s.label with
  | some label => '|' :: label.toList
  | none => []

/-- A slot whose front is how the network of another one starts, and whose label is what then is
missing from the key of the other one. -/
def RunsInto (a b : Slot) : Prop :=
  ∃ more, b.network.toList = a.front ++ more ∧
    a.back = more ++ '|' :: Product.codeOf b.product :: b.back

/-- The same slot, or two of which one runs into the other. -/
def SharesKey (a b : Slot) : Prop := a = b ∨ a.RunsInto b ∨ b.RunsInto a

/-- The key of a slot: the network, a bar, the letter of the product, and the label behind a bar of
its own. -/
theorem toList_key (s : Slot) :
    s.key.toList = s.network.toList ++ '|' :: Product.codeOf s.product :: s.back := by
  have bar : "|".toList = ['|'] := rfl
  unfold key StyleTable.key back
  cases s.label
  all_goals
    simp only [Option.getD_some, String.toList_append, String.toList_singleton, bar,
      List.append_assoc, List.cons_append, List.nil_append]

/-- The letter in a key tells the product, and whether there is one at all. -/
theorem codeOf_injective {p q : Option Product} (same : Product.codeOf p = Product.codeOf q) :
    p = q := by
  have listed (p : Option Product) : p ∈ none :: Product.all.map some := by
    cases p with
    | none => exact List.mem_cons_self
    | some p => exact List.mem_cons_of_mem _ (List.mem_map_of_mem p.mem_all)
  have all : ∀ p ∈ none :: Product.all.map some, ∀ q ∈ none :: Product.all.map some,
      Product.codeOf p = Product.codeOf q → p = q := by decide
  exact all p (listed p) q (listed q) same

theorem codeOf_ne_bar (p : Option Product) : Product.codeOf p ≠ '|' := by
  cases p with
  | none => decide
  | some p => cases p <;> decide

/-- A label is known from the end of a key, whether it is there or not. -/
theorem back_injective (same : a.back = b.back) : a.label = b.label := by
  unfold back at same
  cases ha : a.label with
  | none =>
    cases hb : b.label with
    | none => rfl
    | some label =>
      rw [ha, hb] at same
      cases same
  | some label =>
    cases hb : b.label with
    | none =>
      rw [ha, hb] at same
      cases same
    | some label' =>
      rw [ha, hb] at same
      exact congrArg some (String.toList_inj.1 (List.cons.inj same).2)

/-- A slot and the one that it runs into have the same key. -/
theorem RunsInto.key_eq (h : a.RunsInto b) : a.key = b.key := by
  obtain ⟨more, network, label⟩ := h
  refine String.toList_inj.1 ?_
  rw [toList_key, toList_key, network, front, label]
  simp only [List.append_assoc, List.cons_append, List.nil_append]

/-- Of two slots with one key, the one with the shorter network runs into the other one unless they
are the same. What the longer network holds more starts with a bar and a product. -/
theorem eq_or_runsInto {more : List Char} (network : b.network.toList = a.network.toList ++ more)
    (rest : '|' :: Product.codeOf a.product :: a.back =
      more ++ '|' :: Product.codeOf b.product :: b.back) : a = b ∨ a.RunsInto b := by
  match more with
  | [] =>
    rw [List.append_nil] at network
    obtain ⟨-, rest⟩ := List.cons.inj rest
    obtain ⟨product, label⟩ := List.cons.inj rest
    left
    cases a
    cases b
    rw [mk.injEq]
    exact ⟨String.toList_inj.1 network.symm, codeOf_injective product, back_injective label⟩
  | [c] =>
    obtain ⟨-, rest⟩ := List.cons.inj rest
    exact absurd (List.cons.inj rest).1 (codeOf_ne_bar a.product)
  | c :: d :: more =>
    obtain ⟨bar, behind⟩ := List.cons.inj rest
    obtain ⟨product, label⟩ := List.cons.inj behind
    right
    refine ⟨more, ?_, label⟩
    rw [network, ← bar, ← product, front, List.append_assoc]
    rfl

/-- Slots have the same key if they are the same or one runs into the other, and only then. -/
theorem key_eq_iff : a.key = b.key ↔ a.SharesKey b := by
  constructor
  · intro same
    have chars := congrArg String.toList same
    rw [toList_key, toList_key, List.append_eq_append_iff] at chars
    rcases chars with ⟨more, network, rest⟩ | ⟨more, network, rest⟩
    · rcases eq_or_runsInto network rest with same | into
      · exact .inl same
      · exact .inr (.inl into)
    · rcases eq_or_runsInto network rest with same | into
      · exact .inl same.symm
      · exact .inr (.inr into)
  · rintro (rfl | into | into)
    · rfl
    · exact into.key_eq
    · exact into.key_eq.symm

instance (a b : Slot) : Decidable (a.SharesKey b) := decidable_of_iff _ key_eq_iff

/-- A slot is run into only where its network holds a bar. -/
theorem RunsInto.bar_mem (h : a.RunsInto b) : '|' ∈ b.network.toList := by
  obtain ⟨more, network, -⟩ := h
  rw [network, front]
  simp

/-- Where no network has a bar in it, slots have keys of their own. -/
theorem sharesKey_iff_of_barless (left : '|' ∉ a.network.toList) (right : '|' ∉ b.network.toList) :
    a.SharesKey b ↔ a = b := by
  refine ⟨?_, .inl⟩
  rintro (same | into | into)
  · exact same
  · exact absurd into.bar_mem right
  · exact absurd into.bar_mem left

end Slot

/-! ## Tables -/

/-- A style as it is added: for one labelled line, or for the lines of a product. -/
inductive Addition where
  | forLine (network : Option String) (product : Option Product) (label : String) (style : Style)
  | forProduct (network : Option String) (product : Product) (style : Style)

namespace Addition

/-- The slot that the style is added for. -/
def slot : Addition → Slot
  | forLine network product label _ => ⟨network.getD "", product, some label⟩
  | forProduct network product _ => ⟨network.getD "", some product, none⟩

def style : Addition → Style
  | forLine _ _ _ style => style
  | forProduct _ _ style => style

/-- The table with the style. -/
def addTo (t : StyleTable) : Addition → StyleTable
  | forLine network product label style => t.withLine network product label style
  | forProduct network product style => t.withProduct network product style

/-- Each way to add a style puts it under the key of its slot. -/
theorem addTo_eq (t : StyleTable) (a : Addition) : a.addTo t = t.insert a.slot.key a.style := by
  cases a with
  | forLine network product label style => rfl
  | forProduct network product style => rfl

end Addition

/-- The table with some styles, which are added in order. -/
def ofAdditions (additions : List Addition) : StyleTable := additions.foldl Addition.addTo empty

/-- The style that was last added for one of certain slots. -/
def latest (additions : List Addition) (wanted : Slot → Prop) [DecidablePred wanted] :
    Option Style :=
  (additions.filter fun a => wanted a.slot).getLast?.map Addition.style

/-- The slots that a look-up asks for, one after the other. -/
def asked (network : Option String) (product : Option Product) (label : Option String) :
    List Slot :=
  (label.map fun label => ⟨network.getD "", product, some label⟩).toList ++
    [⟨network.getD "", product, none⟩, ⟨"", product, none⟩]

variable {t : StyleTable} {k k' : String} {style : Style} {additions : List Addition}
  {network : Option String} {product : Option Product} {label : Option String}

/-- What is deleted under one key is still there under the others. -/
theorem lookup_filter_ne {entries : List (String × Style)} (other : k ≠ k') :
    (entries.filter (·.1 ≠ k)).lookup k' = entries.lookup k' := by
  induction entries with
  | nil => rfl
  | cons entry entries ih =>
    obtain ⟨own, style⟩ := entry
    by_cases here : own = k
    · subst here
      have missed : (k' == own) = false := beq_eq_false_iff_ne.2 other.symm
      rw [List.filter_cons_of_neg (by simp), ih, List.lookup_cons, missed]
    · rw [List.filter_cons_of_pos (by simpa using here), List.lookup_cons, List.lookup_cons, ih]

/-- A style replaces the one under its key and no other one. -/
theorem find?_insert :
    (t.insert k style).find? k' = if k = k' then some style else t.find? k' := by
  rw [find?, insert, List.lookup_cons]
  by_cases same : k = k'
  · subst same
    rw [beq_self_eq_true, if_pos rfl]
  · rw [beq_eq_false_iff_ne.2 (Ne.symm same), if_neg same]
    exact lookup_filter_ne same

/-- The style that was added last is the latest for its slot. -/
theorem latest_concat (a : Addition) (wanted : Slot → Prop) [DecidablePred wanted] :
    latest (additions ++ [a]) wanted =
      if wanted a.slot then some a.style else latest additions wanted := by
  unfold latest
  by_cases here : wanted a.slot
  · rw [if_pos here, List.filter_append, List.filter_cons_of_pos (by simpa using here),
      List.filter_nil, List.getLast?_concat, Option.map_some]
  · rw [if_neg here, List.filter_append, List.filter_cons_of_neg (by simpa using here),
      List.filter_nil, List.append_nil]

/-- Under the key of a slot stands the style that was last added for a slot with that key. -/
theorem find?_ofAdditions (additions : List Addition) (slot : Slot) :
    (ofAdditions additions).find? slot.key = latest additions (·.SharesKey slot) := by
  induction additions using List.reverseRecOn with
  | nil => rfl
  | append_singleton additions a ih =>
    have last : ofAdditions (additions ++ [a]) =
        (ofAdditions additions).insert a.slot.key a.style := by
      rw [ofAdditions, List.foldl_append, List.foldl_cons, List.foldl_nil, a.addTo_eq]
      rfl
    rw [last, find?_insert, latest_concat, ih]
    exact if_congr Slot.key_eq_iff rfl rfl

/-- A look-up asks for the label first, then for the product in the network, then for the product.
-/
theorem findSome?_asked (f : Slot → Option Style) :
    (asked network product label).findSome? f =
      (label.bind fun label => f ⟨network.getD "", product, some label⟩).or
        ((f ⟨network.getD "", product, none⟩).or (f ⟨"", product, none⟩)) := by
  have labelled : ((label.map fun label => (⟨network.getD "", product, some label⟩ : Slot)).toList
      ).findSome? f = label.bind fun label => f ⟨network.getD "", product, some label⟩ := by
    cases label with
    | none => rfl
    | some label => exact List.findSome?_singleton
  have unlabelled (a b : Slot) : [a, b].findSome? f = (f a).or (f b) := by
    rw [← List.singleton_append, List.findSome?_append, List.findSome?_singleton,
      List.findSome?_singleton]
  rw [asked, List.findSome?_append, labelled, unlabelled]

/-- A look-up tries the keys of the slots that it asks for. Where no network is given, the second
and the third of them are the same. -/
theorem lookup_eq (t : StyleTable) (network : Option String) (product : Option Product)
    (label : Option String) :
    t.lookup network product label =
      (asked network product label).findSome? fun slot => t.find? slot.key := by
  rw [findSome?_asked, lookup]
  simp only [Option.orElse_eq_orElse, Option.orElse_eq_or]
  cases network with
  | some network => rfl
  | none =>
    rw [Option.bind_none, Option.none_or]
    exact congrArg _ Option.or_self.symm

/-- Where networks hold no bars, styles are added for one slot at a time. -/
theorem latest_sharesKey (barless : ∀ a ∈ additions, '|' ∉ a.slot.network.toList) {name : String}
    (own : '|' ∉ name.toList) (product : Option Product) (label : Option String) :
    latest additions (·.SharesKey ⟨name, product, label⟩) =
      latest additions (· = ⟨name, product, label⟩) := by
  unfold latest
  congr 2
  refine List.filter_congr fun a mem => ?_
  rw [decide_eq_decide]
  exact Slot.sharesKey_iff_of_barless (barless a mem) own

/-- A look-up gets the style that was last added for the first slot that it asks for and that has
any, as far as a table tells slots apart: what is added for a slot is added for all slots with its
key. Where no name of a network holds a bar, it is added for this slot and for no other one. -/
theorem lookup_falls_back (additions : List Addition) (network : Option String)
    (product : Option Product) (label : Option String) :
    (ofAdditions additions).lookup network product label =
        (asked network product label).findSome? (fun slot => latest additions (·.SharesKey slot)) ∧
      ((∀ a ∈ additions, '|' ∉ a.slot.network.toList) → (∀ name ∈ network, '|' ∉ name.toList) →
        (ofAdditions additions).lookup network product label =
          (asked network product label).findSome? (fun slot => latest additions (· = slot))) := by
  have found : (ofAdditions additions).lookup network product label =
      (asked network product label).findSome? fun slot => latest additions (·.SharesKey slot) := by
    rw [lookup_eq]
    simp only [find?_ofAdditions]
  refine ⟨found, fun barless ownBarless => ?_⟩
  have own : '|' ∉ (network.getD "").toList := by
    cases network with
    | none => exact List.not_mem_nil
    | some name => exact ownBarless name rfl
  have nowhere : '|' ∉ "".toList := List.not_mem_nil
  rw [found, findSome?_asked, findSome?_asked]
  simp only [latest_sharesKey barless own, latest_sharesKey barless nowhere]

/-! ## Bars in labels and in the name of a network -/

def redBadge : Style := ⟨.rect, 0xFFFF0000, 0xFFFFFFFF, none⟩

def greenBadge : Style := ⟨.circle, 0xFF008000, 0xFFFFFFFF, none⟩

/-- A style for all buses and one for a bus of `A`. -/
def buses : List Addition :=
  [.forLine (some "A") (some .bus) "S|B" redBadge, .forProduct none .bus greenBadge]

/-- The bus of `A` has its style, and all other buses of `A` have that of all buses. -/
theorem lookup_falls_back_buses :
    (∀ a ∈ buses, '|' ∉ a.slot.network.toList) ∧
      (ofAdditions buses).lookup (some "A") (some .bus) (some "S|B") = some redBadge ∧
      (ofAdditions buses).lookup (some "A") (some .bus) (some "S") = some greenBadge := by
  have barless : ∀ a ∈ buses, '|' ∉ a.slot.network.toList := by decide
  have ownBarless : ∀ name ∈ some "A", '|' ∉ name.toList := by decide
  exact ⟨barless, ((lookup_falls_back buses _ _ _).2 barless ownBarless).trans (by decide),
    ((lookup_falls_back buses _ _ _).2 barless ownBarless).trans (by decide)⟩

/-- Two styles, for the line `S` of the buses of `A` and for the suburban trains of `A|B`. -/
def barred : List Addition :=
  [.forLine (some "A") (some .bus) "S" redBadge,
    .forProduct (some "A|B") .suburbanTrain greenBadge]

/-- The line gets the style of the trains, although there is one that was added for it and for no
other slot. -/
theorem lookup_barred :
    (ofAdditions barred).lookup (some "A") (some .bus) (some "S") = some greenBadge ∧
      latest barred (· = ⟨"A", some .bus, some "S"⟩) = some redBadge ∧
      (asked (some "A") (some .bus) (some "S")).findSome? (fun slot => latest barred (· = slot)) =
        some redBadge := by
  decide

end Itinerary.StyleTable
