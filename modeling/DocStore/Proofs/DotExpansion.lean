import DocStore.Proofs.QueryDiffs
import Mathlib.Data.List.Induction
/-!
# Dotted names put every value at its path

A write reads each member name as a dotted path (`dotSegments`) and places the member's value
there (`expandDots`, one `placeAt` per member, in member order). Two facts about one placement
carry everything:

* the value can be read back at its path (`atPath_placeAt_self`);
* a path that is neither a prefix nor an extension of the placed path reads what it read before
  (`atPath_placeAt_of_not_prefix`), and a path that reads something after the placement read
  something before or is a prefix or an extension of the placed path (`atPath_placeAt_cases`).

Folding them over the members: the top-level names are the first segments of the member names,
each once, in order of first occurrence (`keys_expandDots`); a member whose path no later
member's path extends or cuts short is read back at its path (`getField_expandDots`); whatever
can be read is on the way to a member's path or inside its value (`covered_expandDots`); and
members without dots are kept as they are (`expandDots_of_no_dots`).
-/

namespace DocStore

/-! ## Segments of a dotted name -/

theorem dotSegments_ne_nil (k : String) : dotSegments k ≠ [] := by
  simp [dotSegments]

/-- Different names have different segments: the name is its segments joined by dots. -/
theorem dotSegments_injective : Function.Injective dotSegments := by
  intro k k' h
  have hsplit : k.toList.splitOn '.' = k'.toList.splitOn '.' := by
    have := congrArg (List.map String.toList) h
    simpa [dotSegments, List.map_map, Function.comp_def] using this
  have hjoin := congrArg (['.'].intercalate ·) hsplit
  simp only [List.intercalate_splitOn] at hjoin
  exact String.toList_inj.1 hjoin

theorem dotSegments_of_not_mem {k : String} (h : '.' ∉ k.toList) : dotSegments k = [k] := by
  simp [dotSegments, List.splitOn_eq_singleton h]

/-! ## Members of an object -/

namespace Value

/-- Read after write. -/
theorem lookup_setField_self (fields : List (String × Value)) (k : String) (v : Value) :
    lookup (setField fields k v) k = some v := by
  unfold setField
  split
  · rename_i hany
    induction fields with
    | nil => simp at hany
    | cons p rest ih =>
      obtain ⟨pk, pv⟩ := p
      by_cases hp : pk = k
      · simp [lookup_cons, hp]
      · have hrest : rest.any (fun q => q.1 == k) = true := by simpa [hp] using hany
        simpa [lookup_cons, hp] using ih hrest
  · rename_i hany
    induction fields with
    | nil => simp [lookup]
    | cons p rest ih =>
      have hp : p.1 ≠ k := fun e => hany (by simp [e])
      rw [List.cons_append, lookup_cons, if_neg hp]
      exact ih fun h => hany (by rw [List.any_cons, h, Bool.or_true])

/-- Read another member. -/
theorem lookup_setField_of_ne (fields : List (String × Value)) {k k' : String} (v : Value)
    (h : k' ≠ k) : lookup (setField fields k v) k' = lookup fields k' := by
  unfold setField
  split
  · -- the members of name `k` change, and they are not those of name `k'`
    clear ‹_›
    induction fields with
    | nil => rfl
    | cons p rest ih =>
      rw [List.map_cons, lookup_cons, lookup_cons, ih]
      by_cases hp : p.1 = k
      · simp [hp, Ne.symm h]
      · simp [hp]
  · clear ‹_›
    induction fields with
    | nil => simp [lookup, Ne.symm h]
    | cons p rest ih => rw [List.cons_append, lookup_cons, lookup_cons, ih]

/-- Setting a member keeps the names in place and adds a new name last. -/
theorem keys_setField (fields : List (String × Value)) (k : String) (v : Value) :
    (setField fields k v).map Prod.fst =
      fields.map Prod.fst ++ if k ∈ fields.map Prod.fst then [] else [k] := by
  unfold setField
  have hmem : (fields.any fun p => p.1 == k) = true ↔ k ∈ fields.map Prod.fst := by
    simp only [List.any_eq_true, beq_iff_eq, List.mem_map]
  split
  · rename_i hany
    rw [if_pos (hmem.1 hany), List.append_nil, List.map_map]
    refine List.map_congr_left fun p _ => ?_
    by_cases hp : p.1 = k <;> simp [hp]
  · rename_i hany
    rw [if_neg (fun h => hany (hmem.2 h))]
    simp

theorem atPath_obj_cons (fields : List (String × Value)) (s : String) (rest : List String) :
    (Value.obj fields).atPath (s :: rest) = (lookup fields s).bind (·.atPath rest) := by
  simp only [atPath, field?]
  cases lookup fields s <;> rfl

/-- Only objects have members. -/
theorem atPath_cons_of_not_obj {v : Value} (hv : ∀ fields, v ≠ .obj fields) (s : String)
    (rest : List String) : v.atPath (s :: rest) = none := by
  cases v with
  | obj fields => exact absurd rfl (hv fields)
  | _ => rfl

end Value

open Value

/-! ## One placement -/

/-- The members a path continues into below a name: those of the object there, if any. -/
def membersAt (fields : List (String × Value)) (k : String) : List (String × Value) :=
  match lookup fields k with
  | some (.obj sub) => sub
  | _ => []

theorem placeAt_cons_cons (fields : List (String × Value)) (k k' : String) (rest : List String)
    (v : Value) : placeAt fields (k :: k' :: rest) v =
      setField fields k (.obj (placeAt (membersAt fields k) (k' :: rest) v)) := rfl

/-- Reading below a name of an object reads below the object's members there. -/
theorem atPath_membersAt (fields : List (String × Value)) (k : String) {rest : List String}
    (h : rest ≠ []) : (Value.obj (membersAt fields k)).atPath rest = (Value.obj fields).atPath (k :: rest) := by
  obtain ⟨s, rest', rfl⟩ := List.exists_cons_of_ne_nil h
  rw [atPath_obj_cons fields k]
  unfold membersAt
  split
  · rename_i sub hsub
    rw [hsub]
    rfl
  · rename_i hnot
    rw [atPath_obj_cons]
    cases hl : lookup fields k with
    | none => simp [lookup]
    | some w =>
      have hw : ∀ sub, w ≠ .obj sub := fun sub e => hnot sub (hl ▸ e ▸ rfl)
      simp [lookup, atPath_cons_of_not_obj hw]

/-- A placed value is read back at its path. -/
theorem atPath_placeAt_self (fields : List (String × Value)) (v : Value) :
    ∀ {segs : List String}, segs ≠ [] → (Value.obj (placeAt fields segs v)).atPath segs = some v
  | [k], _ => by
    rw [placeAt, atPath_obj_cons, lookup_setField_self]
    rfl
  | k :: k' :: rest, _ => by
    rw [placeAt_cons_cons, atPath_obj_cons, lookup_setField_self, Option.bind_some]
    exact atPath_placeAt_self _ v (List.cons_ne_nil k' rest)

/-- A placement leaves alone every path that is neither a prefix nor an extension of its own. -/
theorem atPath_placeAt_of_not_prefix (v : Value) :
    ∀ {fields : List (String × Value)} {segs s : List String}, ¬ s <+: segs → ¬ segs <+: s →
      (Value.obj (placeAt fields segs v)).atPath s = (Value.obj fields).atPath s
  | _, [], _, _, h => absurd (List.nil_prefix) h
  | _, _ :: _, [], h, _ => absurd (List.nil_prefix) h
  | fields, [k], s :: rest, _, h => by
    -- the paths apart from `[k]` start with another name
    have hs : s ≠ k := by
      rintro rfl
      exact h (List.prefix_cons_inj s |>.2 List.nil_prefix)
    rw [placeAt, atPath_obj_cons, atPath_obj_cons, lookup_setField_of_ne _ _ hs]
  | fields, k :: k' :: segs, s :: rest, h₁, h₂ => by
    rw [placeAt_cons_cons, atPath_obj_cons, atPath_obj_cons]
    by_cases hs : s = k
    · -- the path goes below the name the placement writes: compare below it
      subst hs
      have h₁' : ¬ rest <+: k' :: segs := fun e => h₁ ((List.prefix_cons_inj s).2 e)
      have h₂' : ¬ k' :: segs <+: rest := fun e => h₂ ((List.prefix_cons_inj s).2 e)
      have hrest : rest ≠ [] := by
        rintro rfl
        exact h₁' List.nil_prefix
      rw [lookup_setField_self, Option.bind_some, atPath_placeAt_of_not_prefix v h₁' h₂',
        atPath_membersAt fields s hrest, atPath_obj_cons]
    · rw [lookup_setField_of_ne _ _ hs]

/-- What can be read after a placement could be read before, or lies on the way to the placed
path, or inside the placed value. -/
theorem atPath_placeAt_cases (v : Value) :
    ∀ {fields : List (String × Value)} {segs s : List String}, s ≠ [] →
      (Value.obj (placeAt fields segs v)).atPath s ≠ none →
      (Value.obj fields).atPath s ≠ none ∨ s <+: segs ∨ segs <+: s
  | _, [], _, _, h => .inl h
  | _, _ :: _, [], hs, _ => absurd rfl hs
  | fields, [k], s :: rest, _, h => by
    by_cases hk : s = k
    · subst hk
      exact .inr (.inr ((List.prefix_cons_inj s).2 List.nil_prefix))
    · rw [placeAt, atPath_obj_cons, lookup_setField_of_ne _ _ hk, ← atPath_obj_cons] at h
      exact .inl h
  | fields, k :: k' :: segs, s :: rest, _, h => by
    by_cases hk : s = k
    · subst hk
      rw [placeAt_cons_cons, atPath_obj_cons, lookup_setField_self, Option.bind_some] at h
      by_cases hrest : rest = []
      · subst hrest
        exact .inr (.inl ((List.prefix_cons_inj s).2 List.nil_prefix))
      · rcases atPath_placeAt_cases v hrest h with h | h | h
        · rw [atPath_membersAt fields s hrest] at h
          exact .inl h
        · exact .inr (.inl ((List.prefix_cons_inj s).2 h))
        · exact .inr (.inr ((List.prefix_cons_inj s).2 h))
    · rw [placeAt_cons_cons, atPath_obj_cons, lookup_setField_of_ne _ _ hk, ← atPath_obj_cons] at h
      exact .inl h

/-- A placement at a non-empty path keeps the top-level names and adds its first segment last
when it is new. -/
theorem keys_placeAt (fields : List (String × Value)) (v : Value) {k : String}
    {rest : List String} : (placeAt fields (k :: rest) v).map Prod.fst =
      fields.map Prod.fst ++ if k ∈ fields.map Prod.fst then [] else [k] := by
  cases rest with
  | nil => exact keys_setField fields k v
  | cons k' rest => rw [placeAt_cons_cons, keys_setField]

/-! ## Expanding every member -/

theorem expandDots_append_singleton (m : List (String × Value)) (k : String) (v : Value) :
    expandDots (m ++ [(k, v)]) = placeAt (expandDots m) (dotSegments k) v := by
  simp only [expandDots, List.foldl_append, List.foldl_cons, List.foldl_nil]

/-- The first segments of the member names. -/
def firstSegments (m : List (String × Value)) : List String :=
  m.filterMap fun kv => (dotSegments kv.1).head?

/-- The top-level names of an expansion are the first segments of the member names, each once,
in order of first occurrence. -/
theorem keys_expandDots (m : List (String × Value)) :
    (expandDots m).map Prod.fst = (firstSegments m).eraseDups := by
  induction m using List.reverseRecOn with
  | nil => rfl
  | append_singleton m kv ih =>
    obtain ⟨k, v⟩ := kv
    obtain ⟨s, rest, hsegs⟩ := List.exists_cons_of_ne_nil (dotSegments_ne_nil k)
    have hfirst : firstSegments (m ++ [(k, v)]) = firstSegments m ++ [s] := by
      simp [firstSegments, List.filterMap_append, hsegs]
    rw [expandDots_append_singleton, hsegs, keys_placeAt, ih, hfirst, List.eraseDups_append]
    simp only [List.mem_eraseDups]
    by_cases hs : s ∈ firstSegments m
    · simp [List.removeAll, hs]
    · simp [List.removeAll, hs, List.eraseDups_cons]

/-- What a run of placements keeps at a path that none of them writes on the way to or below. -/
theorem atPath_foldl_placeAt {s : List String} :
    ∀ {post : List (String × Value)} {fields : List (String × Value)},
      (∀ kv ∈ post, ¬ s <+: dotSegments kv.1 ∧ ¬ dotSegments kv.1 <+: s) →
      (Value.obj (post.foldl (fun acc kv => placeAt acc (dotSegments kv.1) kv.2) fields)).atPath s =
        (Value.obj fields).atPath s
  | [], _, _ => rfl
  | kv :: post, fields, h => by
    rw [List.foldl_cons, atPath_foldl_placeAt fun kv' hkv' => h kv' (.tail _ hkv')]
    exact atPath_placeAt_of_not_prefix kv.2 (h kv (.head _)).1 (h kv (.head _)).2

theorem expandDots_eq_foldl (m : List (String × Value)) :
    expandDots m = m.foldl (fun acc kv => placeAt acc (dotSegments kv.1) kv.2) [] := rfl

/-- A member whose path no later member's path cuts short or extends is read back at its path. -/
theorem getField_expandDots {m pre post : List (String × Value)} {k : String} {v : Value}
    (hm : (m.map Prod.fst).Nodup) (hsplit : m = pre ++ (k, v) :: post)
    (hlater : ∀ kv ∈ post,
      ¬ (dotSegments kv.1 <+: dotSegments k ∧ dotSegments kv.1 ≠ dotSegments k) ∧
      ¬ (dotSegments k <+: dotSegments kv.1 ∧ dotSegments k ≠ dotSegments kv.1)) :
    (Value.obj (expandDots m)).getField k = some v := by
  -- a later member has another name, so other segments: proper or not makes no difference
  have hother : ∀ kv ∈ post, dotSegments kv.1 ≠ dotSegments k := by
    intro kv hkv heq
    have hk : kv.1 = k := dotSegments_injective heq
    rw [hsplit, List.map_append, List.map_cons] at hm
    exact (List.nodup_cons.1 (List.nodup_append.1 hm).2.1).1 (List.mem_map.2 ⟨kv, hkv, hk⟩)
  have hapart : ∀ kv ∈ post, ¬ dotSegments k <+: dotSegments kv.1 ∧ ¬ dotSegments kv.1 <+: dotSegments k :=
    fun kv hkv => ⟨fun e => (hlater kv hkv).2 ⟨e, (hother kv hkv).symm⟩,
      fun e => (hlater kv hkv).1 ⟨e, hother kv hkv⟩⟩
  rw [getField, expandDots_eq_foldl, hsplit, List.foldl_append, List.foldl_cons,
    atPath_foldl_placeAt hapart]
  exact atPath_placeAt_self _ v (dotSegments_ne_nil k)

/-- Whatever can be read below the top of an expansion is on the way to a member's path or
inside its value. -/
theorem covered_expandDots (m : List (String × Value)) {s : List String} (hs : s ≠ [])
    (h : (Value.obj (expandDots m)).atPath s ≠ none) :
    ∃ kv ∈ m, s <+: dotSegments kv.1 ∨ dotSegments kv.1 <+: s := by
  induction m using List.reverseRecOn with
  | nil =>
    obtain ⟨s₀, rest, rfl⟩ := List.exists_cons_of_ne_nil hs
    simp [expandDots, atPath_obj_cons, lookup] at h
  | append_singleton m kv ih =>
    obtain ⟨k, v⟩ := kv
    rw [expandDots_append_singleton] at h
    rcases atPath_placeAt_cases v hs h with h | h | h
    · obtain ⟨kv, hkv, hp⟩ := ih h
      exact ⟨kv, List.mem_append_left _ hkv, hp⟩
    · exact ⟨(k, v), List.mem_append_right _ (.head _), .inl h⟩
    · exact ⟨(k, v), List.mem_append_right _ (.head _), .inr h⟩

/-- Members without dots are kept as they are, in their order. -/
theorem expandDots_of_no_dots {m : List (String × Value)} (hm : (m.map Prod.fst).Nodup)
    (hdots : ∀ kv ∈ m, '.' ∉ kv.1.toList) : expandDots m = m := by
  induction m using List.reverseRecOn with
  | nil => rfl
  | append_singleton m kv ih =>
    obtain ⟨k, v⟩ := kv
    rw [List.map_append, List.nodup_append] at hm
    have hnew : k ∉ m.map Prod.fst := fun hk => hm.2.2 _ hk _ (.head _) rfl
    rw [expandDots_append_singleton, dotSegments_of_not_mem (hdots _ (List.mem_append_right _ (.head _))),
      ih hm.1 (fun kv hkv => hdots kv (List.mem_append_left _ hkv))]
    have hany : ¬ (m.any fun p => p.1 == k) = true := fun h => by
      obtain ⟨p, hp, e⟩ := List.any_eq_true.1 h
      exact hnew (List.mem_map.2 ⟨p, hp, by simpa using e⟩)
    rw [placeAt, setField, if_neg hany]

/-- How dot expansion places the members of `m` in the object `e`. -/
structure PlacesAtPaths (m e : List (String × Value)) : Prop where
  /-- The top-level names are the first segments of the member names, in order of first
  occurrence. -/
  keys : e.map Prod.fst = (firstSegments m).eraseDups
  /-- A member whose path no later member's path cuts short or extends is at its path. -/
  placed : ∀ pre k v post, m = pre ++ (k, v) :: post →
    (∀ kv ∈ post,
      ¬ (dotSegments kv.1 <+: dotSegments k ∧ dotSegments kv.1 ≠ dotSegments k) ∧
      ¬ (dotSegments k <+: dotSegments kv.1 ∧ dotSegments k ≠ dotSegments kv.1)) →
    (Value.obj e).getField k = some v
  /-- Every path that can be read is a prefix or an extension of a member's path. -/
  covered : ∀ s, s ≠ [] → (Value.obj e).atPath s ≠ none →
    ∃ kv ∈ m, s <+: dotSegments kv.1 ∨ dotSegments kv.1 <+: s
  /-- Without dots nothing moves. -/
  plain : (∀ kv ∈ m, '.' ∉ kv.1.toList) → e = m

/-- Dot expansion places every member of an object, read as a map, at its path. -/
theorem expandDots_places {m : List (String × Value)} (hm : (m.map Prod.fst).Nodup) :
    PlacesAtPaths m (expandDots m) where
  keys := keys_expandDots m
  placed _ _ _ _ hsplit hlater := getField_expandDots hm hsplit hlater
  covered _ hs h := covered_expandDots m hs h
  plain hdots := expandDots_of_no_dots hm hdots

/-- The members of the expansion test: two dotted names below `address`, and a plain name. -/
def addressMembers : List (String × Value) :=
  [("address.city", .str "Oslo"), ("address.zip", .str "0150"), ("name", .str "Kari")]

theorem expandDots_places_address :
    (addressMembers.map Prod.fst).Nodup ∧ PlacesAtPaths addressMembers (expandDots addressMembers) :=
  ⟨by decide, expandDots_places (by decide)⟩

end DocStore
