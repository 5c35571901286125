import InterfaceStub.Extraction.Signature

/-!
# Right alignment

`alignRight` pairs the items of one list with the values of a shorter one, the last ones together.
`RightAligned` says what such pairs are without saying how they are made: the items are all there,
the values are all there, and the items that have a value are the last ones.

* `alignRight_eq_ok_iff` takes a success apart: the second column of the pairs is `padded`.
* `eq_padded_iff` tells the padded column by its values and by the places where it has one, and
  `alignRight_iff_rightAligned` the aligned pairs.
* `alignRight_filterMap_iff` is about items with values of their own, which keep them exactly where
  those with a value come last.
* `rightAlignment_faithful_iff` is the result, for any two lists and for positional parameters.
-/

namespace InterfaceStub

open Syntax Extraction

variable {α : Type u} {β : Type v}

/-- The pairs are the items of `first` in order, the last ones with the values of `second`. -/
structure RightAligned (first : List α) (second : List β) (pairs : List (α × Option β)) : Prop where
  /-- The items are those of the first list. -/
  items : pairs.map Prod.fst = first
  /-- The values are those of the second list. -/
  values : pairs.filterMap Prod.snd = second
  /-- The pairs with a value are as many as there are values, at the end. -/
  last : ∀ position pair, pairs[position]? = some pair →
    (pair.2.isSome ↔ first.length ≤ position + second.length)

/-! ## The column of values -/

/-- The values at the end of `count` places. -/
def padded (count : Nat) (values : List β) : List (Option β) :=
  List.replicate (count - values.length) none ++ values.map some

theorem alignRight_eq_ok_iff {first : List α} {second : List β} {pairs : List (α × Option β)} :
    alignRight first second = .ok pairs ↔
      second.length ≤ first.length ∧ pairs = first.zip (padded first.length second) := by
  rw [alignRight]
  split
  · rename_i hle
    rw [Except.ok.injEq, eq_comm]
    exact (and_iff_right hle).symm
  · rename_i hgt
    constructor
    · intro h
      cases h
    · rintro ⟨hle, -⟩
      exact absurd hle hgt

theorem length_padded {count : Nat} {values : List β} (h : values.length ≤ count) :
    (padded count values).length = count := by
  rw [padded, List.length_append, List.length_replicate, List.length_map]
  omega

theorem filterMap_padded (count : Nat) (values : List β) :
    (padded count values).filterMap id = values := by
  rw [padded, List.filterMap_append, List.filterMap_replicate_of_none (by rfl), List.nil_append,
    List.filterMap_map]
  exact List.filterMap_some

/-- The places with a value are the last ones. -/
theorem isSome_of_padded {count position : Nat} {values : List β} {value : Option β}
    (h : (padded count values)[position]? = some value) :
    value.isSome ↔ count ≤ position + values.length := by
  rw [padded, List.getElem?_append, List.length_replicate] at h
  split at h
  · rename_i hopen
    rw [List.getElem?_replicate, if_pos hopen] at h
    cases h
    simp only [Option.isSome_none, Bool.false_eq_true, false_iff]
    omega
  · rename_i hclosed
    rw [List.getElem?_map] at h
    obtain ⟨own, -, rfl⟩ := Option.map_eq_some_iff.1 h
    simp only [Option.isSome_some, true_iff]
    omega

/-- A column is its open places and its values, when the open places come first. -/
theorem eq_replicate_append_map_some {places : Nat} {column : List (Option β)}
    (hle : places ≤ column.length)
    (h : ∀ position value, column[position]? = some value → (value.isSome ↔ places ≤ position)) :
    column = List.replicate places none ++ (column.filterMap id).map some := by
  induction column generalizing places with
  | nil =>
    obtain rfl : places = 0 := by simpa using hle
    rfl
  | cons value column ih =>
    have hvalue := h 0 value rfl
    have hnext {position : Nat} {other : Option β} (hother : column[position]? = some other) :
        other.isSome ↔ places ≤ position + 1 := h (position + 1) other hother
    cases value with
    | none =>
      obtain ⟨left, rfl⟩ : ∃ left, places = left + 1 := by
        refine Nat.exists_eq_succ_of_ne_zero fun hzero => ?_
        simp [hzero] at hvalue
      have hcolumn := ih (by simpa using hle) fun position other hother =>
        (hnext hother).trans Nat.add_le_add_iff_right
      rw [List.filterMap_cons_none rfl, List.replicate_succ, List.cons_append, ← hcolumn]
    | some own =>
      obtain rfl : places = 0 := by simpa using hvalue
      have hcolumn := ih (Nat.zero_le _) fun position other hother =>
        (hnext hother).trans (iff_of_true (Nat.zero_le _) (Nat.zero_le _))
      exact congrArg (some own :: ·) hcolumn

/-- A column is padded exactly when it has these values and has them in the last places. -/
theorem eq_padded_iff {count : Nat} {column : List (Option β)} {values : List β}
    (hlength : column.length = count) (hle : values.length ≤ count) :
    column = padded count values ↔
      column.filterMap id = values ∧ ∀ position value, column[position]? = some value →
        (value.isSome ↔ count ≤ position + values.length) := by
  constructor
  · rintro rfl
    exact ⟨filterMap_padded count values, fun position value => isSome_of_padded⟩
  · rintro ⟨rfl, hlast⟩
    refine eq_replicate_append_map_some (by omega) fun position value hvalue => ?_
    rw [hlast position value hvalue]
    omega

/-! ## Pairs -/

/-- Aligning to the right succeeds with the aligned pairs, of which there is one list only. -/
theorem alignRight_iff_rightAligned {first : List α} {second : List β}
    {pairs : List (α × Option β)} :
    alignRight first second = .ok pairs ↔ RightAligned first second pairs := by
  rw [alignRight_eq_ok_iff]
  have hvalues : (pairs.map Prod.snd).filterMap id = pairs.filterMap Prod.snd :=
    List.filterMap_map
  constructor
  · rintro ⟨hle, hpairs⟩
    have hlength := length_padded hle
    have hfirst : pairs.map Prod.fst = first := by
      rw [hpairs, List.map_fst_zip (by omega)]
    have hsecond : pairs.map Prod.snd = padded first.length second := by
      rw [hpairs, List.map_snd_zip (by omega)]
    have hcolumn : (pairs.map Prod.snd).length = first.length := by rw [hsecond, hlength]
    obtain ⟨hfilter, hlast⟩ := (eq_padded_iff hcolumn hle).1 hsecond
    refine ⟨hfirst, hvalues.symm.trans hfilter, fun position pair hpair => ?_⟩
    exact hlast position pair.2 (by rw [List.getElem?_map, hpair]; rfl)
  · rintro ⟨hfirst, hsecond, hlast⟩
    have hcolumn : (pairs.map Prod.snd).length = first.length := by
      rw [← hfirst, List.length_map, List.length_map]
    have hle : second.length ≤ first.length := by
      rw [← hsecond, ← hfirst, List.length_map]
      exact List.length_filterMap_le _ _
    refine ⟨hle, List.zip_of_prod hfirst ((eq_padded_iff hcolumn hle).2 ⟨?_, ?_⟩)⟩
    · exact hvalues.trans hsecond
    · intro position value hvalue
      rw [List.getElem?_map] at hvalue
      obtain ⟨pair, hpair, rfl⟩ := Option.map_eq_some_iff.1 hvalue
      exact hlast position pair hpair

example : alignRight [1, 2, 3] ["a", "b"] = .ok [(1, none), (2, some "a"), (3, some "b")] := rfl

/-- After aligning to the right, the items with a value come last. -/
theorem pairwise_of_alignRight {first : List α} {second : List β} {pairs : List (α × Option β)}
    (h : alignRight first second = .ok pairs) :
    (pairs.map (·.2.isSome)).Pairwise fun earlier later : Bool => earlier → later := by
  have hlast := (alignRight_iff_rightAligned.1 h).last
  refine List.pairwise_map.2 (List.pairwise_iff_getElem.2 fun i j hi hj hlt hearlier => ?_)
  have hfrom := (hlast i _ (List.getElem?_eq_getElem hi)).1 hearlier
  exact (hlast j _ (List.getElem?_eq_getElem hj)).2 (by omega)

/-! ## Items with values of their own -/

/-- There are no more values than items that may have one. -/
theorem exists_alignRight_filterMap (value : α → Option β) (items : List α) :
    ∃ pairs, alignRight items (items.filterMap value) = .ok pairs :=
  ⟨_, alignRight_eq_ok_iff.2 ⟨List.length_filterMap_le value items, rfl⟩⟩

/-- Where the items with a value come last, padding the values gives each item its own. -/
theorem padded_filterMap {value : α → Option β} {items : List α}
    (h : items.Pairwise fun first second => (value first).isSome → (value second).isSome) :
    padded items.length (items.filterMap value) = items.map value := by
  induction items with
  | nil => rfl
  | cons item items ih =>
    obtain ⟨hitem, hitems⟩ := List.pairwise_cons.1 h
    have hle := List.length_filterMap_le value items
    have hrest := ih hitems
    rw [padded] at hrest ⊢
    cases hvalue : value item with
    | none =>
      rw [List.filterMap_cons_none hvalue, List.length_cons, Nat.succ_sub hle,
        List.replicate_succ, List.cons_append, hrest, List.map_cons, hvalue]
    | some own =>
      -- Every later item has a value, so no places are left open.
      have hfull : (items.filterMap value).length = items.length := by
        rw [List.length_filterMap_eq_countP, List.countP_eq_length]
        exact fun other hother => hitem other hother (by simp [hvalue])
      rw [hfull, Nat.sub_self, List.replicate_zero, List.nil_append] at hrest
      rw [List.filterMap_cons_some hvalue, List.length_cons, List.length_cons, hfull,
        Nat.sub_self, List.replicate_zero, List.nil_append, List.map_cons, hrest, List.map_cons,
        hvalue]

/-- Where the items with a value come last, aligning the values to the right gives each item its own
value. -/
theorem alignRight_filterMap {value : α → Option β} {items : List α}
    (h : items.Pairwise fun first second => (value first).isSome → (value second).isSome) :
    alignRight items (items.filterMap value) = .ok (items.map fun item => (item, value item)) := by
  refine alignRight_eq_ok_iff.2 ⟨List.length_filterMap_le value items, ?_⟩
  rw [padded_filterMap h]
  simpa using (List.zip_map' (f := id) (g := value) (l := items)).symm

/-- The items keep their own values exactly where those with a value come last. -/
theorem alignRight_filterMap_iff {value : α → Option β} {items : List α}
    {pairs : List (α × Option β)} (h : alignRight items (items.filterMap value) = .ok pairs) :
    (pairs.map (·.2.isSome) = items.map fun item => (value item).isSome) ↔
      items.Pairwise fun first second => (value first).isSome → (value second).isSome := by
  constructor
  · intro hflags
    have hsorted := pairwise_of_alignRight h
    rw [hflags] at hsorted
    exact List.pairwise_map.1 hsorted
  · intro hlast
    cases h.symm.trans (alignRight_filterMap hlast)
    simp

/-! ## Positional parameters -/

namespace Extraction

/-- The arguments that a function takes by position have the defaults that alignment gives. -/
theorem map_hasDefault_positionalArguments {source : Source} {parameters : Node}
    {positional : List Parameter} {pairs : List (Parameter × Option Node)}
    (h : alignRight positional (positional.filterMap Parameter.value) = .ok pairs) :
    (positionalArguments source parameters positional).value.map (·.hasDefault) =
      pairs.map (·.2.isSome) := by
  rw [positionalArguments, h]
  simp only [Report.gather, List.map_map]
  rfl

/-- Aligning to the right succeeds exactly when there are no more values than items, and gives the
aligned pairs.  So the values of positional parameters can always be aligned, and each parameter has
a default as it has a value of its own exactly when none without a value follows one with a
value. -/
theorem rightAlignment_faithful_iff (first : List α) (second : List β) (source : Source)
    (parameters : Node) (positional : List Parameter) :
    ((∃ pairs, alignRight first second = .ok pairs) ↔ second.length ≤ first.length) ∧
    (∀ pairs, alignRight first second = .ok pairs ↔ RightAligned first second pairs) ∧
    ∃ pairs, alignRight positional (positional.filterMap Parameter.value) = .ok pairs ∧
      (positionalArguments source parameters positional).value.map (·.hasDefault) =
        pairs.map (·.2.isSome) ∧
      ((pairs.map (·.2.isSome) = positional.map fun parameter => parameter.value.isSome) ↔
        positional.Pairwise fun earlier later => earlier.value.isSome → later.value.isSome) := by
  refine ⟨?_, fun pairs => alignRight_iff_rightAligned, ?_⟩
  · simp only [alignRight_eq_ok_iff, exists_and_left, exists_eq, and_true]
  · obtain ⟨pairs, hpairs⟩ := exists_alignRight_filterMap Parameter.value positional
    exact ⟨pairs, hpairs, map_hasDefault_positionalArguments hpairs,
      alignRight_filterMap_iff hpairs⟩

end Extraction

end InterfaceStub
