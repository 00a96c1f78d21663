import DocStore.Document
import DocStore.Proofs.DotExpansion
/-!
# The paths offered for date revival

`timestampFields` walks a document's data depth first and lists, as dotted paths, where it finds
a text that reads as a timestamp. It walks into array elements too, naming each by its position,
and it joins member keys with `.` whatever they hold. A snapshot's `getTimestamp` reads a dotted
path the other way: it cuts the path at every `.` and follows the pieces through objects only.

So the two agree only in one direction and on part of the other (`timestampFields_revivable`):

* the listing is exactly the dotted joins of the routes (`Reaches`, member keys and array
  positions) that lead to a revivable text below the top (`mem_timestampFields_iff`);
* every path that `getTimestamp` reads is listed (`mem_timestampFields_of_getTimestamp`);
* a listed route through members whose keys hold no `.` reads back, in data whose objects have
  distinct keys (`getTimestamp_intercalate`); other listed routes need not, as an array element
  or a dotted key can be listed at a path the reader follows elsewhere or not at all
  (`timestampFields_lists_unread_paths`);
* when no key holds a `.`, each path is listed once (`nodup_timestampFields`); a dotted key can
  otherwise name the same path as a nested member.

The one fact about text behind the last three: joining segments without dots by `.` and cutting
the result at its dots gives the segments back (`dotSegments_intercalate`).
-/

namespace DocStore

/-! ## Dotted joins -/

/-- Joining the segments of a name by dots gives the name back. -/
theorem intercalate_dotSegments (p : String) : ".".intercalate (dotSegments p) = p := by
  apply String.toList_inj.mp
  rw [String.toList_intercalate, dotSegments, List.map_map]
  simp [Function.comp_def, List.intercalate_splitOn]

/-- Segments without dots are the segments of their dotted join. -/
theorem dotSegments_intercalate {segs : List String} (hne : segs ≠ [])
    (hdots : ∀ s ∈ segs, '.' ∉ s.toList) : dotSegments (".".intercalate segs) = segs := by
  have hsplit : (".".intercalate segs).toList.splitOn '.' = segs.map String.toList := by
    rw [String.toList_intercalate]
    exact List.splitOn_intercalate '.' (by simpa using hdots) (by simpa using hne)
  rw [dotSegments, hsplit, List.map_map]
  simp [Function.comp_def]

/-- The decimal text of a position holds no dot. -/
theorem dot_not_mem_toString (i : Nat) : '.' ∉ (toString i).toList := by
  intro h
  have := Nat.isDigit_of_mem_toDigits (b := 10) (by decide) (by decide) (by simpa using h)
  exact absurd this (by decide)

/-- Positions have distinct decimal texts. -/
theorem toString_injective : Function.Injective (toString : Nat → String) := by
  intro i j h
  have hd : Nat.toDigits 10 i = Nat.toDigits 10 j := by
    simpa using congrArg String.toList h
  rw [← Nat.ofDigitChars_ten_toDigits (n := i), hd, Nat.ofDigitChars_ten_toDigits]

/-! ## Routes into a value -/

/-- One step into a value: a member by its key, or an array element by its position. -/
inductive PathStep where
  | member (key : String)
  | element (index : Nat)
deriving DecidableEq, Repr

/-- The segment a step puts in a dotted path: the key, or the position in decimal. -/
def PathStep.segment : PathStep → String
  | .member k => k
  | .element i => toString i

/-- `Reaches v r u`: the steps `r` lead from `v` to `u`. A member step enters a member of an
object with that key, an element step the element of an array at that position. -/
inductive Reaches : Value → List PathStep → Value → Prop
  | here (v : Value) : Reaches v [] v
  | member {fields : List (String × Value)} {k : String} {w u : Value} {r : List PathStep} :
      (k, w) ∈ fields → Reaches w r u → Reaches (.obj fields) (.member k :: r) u
  | element {items : List Value} {i : Nat} {w u : Value} {r : List PathStep} :
      items[i]? = some w → Reaches w r u → Reaches (.arr items) (.element i :: r) u

/-- A route to a revivable timestamp: it leads to a text that reads as an instant. -/
def RevivableAt (v : Value) (r : List PathStep) : Prop :=
  ∃ s, Reaches v r (.str s) ∧ (parseTimestamp s).isSome

/-- Every object inside the value, the value itself included, has distinct keys, as a JSON map
does. -/
def KeysDistinct (v : Value) : Prop :=
  ∀ r fields, Reaches v r (.obj fields) → (fields.map Prod.fst).Nodup

/-- No key of an object inside the value holds a dot. -/
def KeysUndotted (v : Value) : Prop :=
  ∀ r fields, Reaches v r (.obj fields) → ∀ kv ∈ fields, '.' ∉ kv.1.toList

theorem Reaches.of_str {s : String} {r : List PathStep} {u : Value} (h : Reaches (.str s) r u) :
    r = [] ∧ u = .str s := by
  cases h
  exact ⟨rfl, rfl⟩

theorem revivableAt_str (s : String) (r : List PathStep) :
    RevivableAt (.str s) r ↔ r = [] ∧ (parseTimestamp s).isSome := by
  constructor
  · rintro ⟨s', h, hp⟩
    obtain ⟨rfl, hs⟩ := h.of_str
    cases hs
    exact ⟨rfl, hp⟩
  · rintro ⟨rfl, hp⟩
    exact ⟨s, .here _, hp⟩

theorem revivableAt_obj (fields : List (String × Value)) (r : List PathStep) :
    RevivableAt (.obj fields) r ↔
      ∃ k w r', r = .member k :: r' ∧ (k, w) ∈ fields ∧ RevivableAt w r' := by
  constructor
  · rintro ⟨s, h, hp⟩
    cases h with
    | member hm hr => exact ⟨_, _, _, rfl, hm, s, hr, hp⟩
  · rintro ⟨k, w, r', rfl, hm, s, hr, hp⟩
    exact ⟨s, .member hm hr, hp⟩

theorem revivableAt_arr (items : List Value) (r : List PathStep) :
    RevivableAt (.arr items) r ↔
      ∃ i w r', r = .element i :: r' ∧ items[i]? = some w ∧ RevivableAt w r' := by
  constructor
  · rintro ⟨s, h, hp⟩
    cases h with
    | element hi hr => exact ⟨_, _, _, rfl, hi, s, hr, hp⟩
  · rintro ⟨i, w, r', rfl, hi, s, hr, hp⟩
    exact ⟨s, .element hi hr, hp⟩

/-- Scalars other than texts hold no timestamp. -/
theorem not_revivableAt_of_scalar {v : Value} (hv : ∀ s, v ≠ .str s)
    (hobj : ∀ fields, v ≠ .obj fields) (harr : ∀ items, v ≠ .arr items) (r : List PathStep) :
    ¬ RevivableAt v r := by
  rintro ⟨s, h, -⟩
  cases h with
  | here => exact hv s rfl
  | member => exact hobj _ rfl
  | element => exact harr _ rfl

theorem KeysDistinct.member {fields : List (String × Value)} (h : KeysDistinct (.obj fields))
    {k : String} {w : Value} (hm : (k, w) ∈ fields) : KeysDistinct w :=
  fun r fs hr => h (.member k :: r) fs (.member hm hr)

theorem KeysDistinct.element {items : List Value} (h : KeysDistinct (.arr items)) {i : Nat}
    {w : Value} (hi : items[i]? = some w) : KeysDistinct w :=
  fun r fs hr => h (.element i :: r) fs (.element hi hr)

theorem KeysUndotted.member {fields : List (String × Value)} (h : KeysUndotted (.obj fields))
    {k : String} {w : Value} (hm : (k, w) ∈ fields) : KeysUndotted w :=
  fun r fs hr => h (.member k :: r) fs (.member hm hr)

theorem KeysUndotted.element {items : List Value} (h : KeysUndotted (.arr items)) {i : Nat}
    {w : Value} (hi : items[i]? = some w) : KeysUndotted w :=
  fun r fs hr => h (.element i :: r) fs (.element hi hr)

/-- The segments of a route hold no dot when no key does. -/
theorem Reaches.segments_undotted {v u : Value} {r : List PathStep} (h : Reaches v r u)
    (hv : KeysUndotted v) : ∀ st ∈ r, '.' ∉ st.segment.toList := by
  induction h with
  | here => simp
  | @member fields k w u r hm _ ih =>
    intro st hst
    rcases List.mem_cons.mp hst with rfl | hst
    · exact hv [] fields (.here _) (k, w) hm
    · exact ih (hv.member hm) st hst
  | element hi _ ih =>
    intro st hst
    rcases List.mem_cons.mp hst with rfl | hst
    · exact dot_not_mem_toString _
    · exact ih (hv.element hi) st hst

/-! ## What the listing holds -/

mutual

/-- The paths listed below a value are the dotted joins of the routes to revivable texts, after
the path of the value itself. -/
theorem mem_timestampPaths_iff (path : List String) : ∀ (v : Value) (p : String),
    p ∈ timestampPaths path v ↔ ∃ r, RevivableAt v r ∧ (path ≠ [] ∨ r ≠ []) ∧
      p = ".".intercalate (path.reverse ++ r.map PathStep.segment)
  | .str s, p => by
    simp only [timestampPaths, revivableAt_str]
    constructor
    · intro h
      split at h
      · rename_i hc
        simp only [Bool.and_eq_true, Bool.not_eq_true', List.isEmpty_eq_false_iff] at hc
        refine ⟨[], ⟨rfl, hc.2⟩, .inl hc.1, ?_⟩
        simpa using h
      · simp at h
    · rintro ⟨r, ⟨rfl, hs⟩, hne, rfl⟩
      have hp : path ≠ [] := by simpa using hne
      simp [hp, hs]
  | .obj fields, p => by
    rw [timestampPaths, mem_timestampPathsFields_iff]
    constructor
    · rintro ⟨k, w, r, hm, hr, rfl⟩
      exact ⟨.member k :: r, (revivableAt_obj _ _).mpr ⟨k, w, r, rfl, hm, hr⟩, .inr (by simp),
        by simp [PathStep.segment]⟩
    · rintro ⟨r, hr, -, rfl⟩
      obtain ⟨k, w, r', rfl, hm, hr'⟩ := (revivableAt_obj _ _).mp hr
      exact ⟨k, w, r', hm, hr', by simp [PathStep.segment]⟩
  | .arr items, p => by
    rw [timestampPaths, mem_timestampPathsItems_iff]
    constructor
    · rintro ⟨j, w, r, hj, hr, rfl⟩
      exact ⟨.element j :: r, (revivableAt_arr _ _).mpr ⟨j, w, r, rfl, hj, hr⟩, .inr (by simp),
        by simp [PathStep.segment]⟩
    · rintro ⟨r, hr, -, rfl⟩
      obtain ⟨j, w, r', rfl, hj, hr'⟩ := (revivableAt_arr _ _).mp hr
      exact ⟨j, w, r', hj, hr', by simp [PathStep.segment]⟩
  | .null, p | .bool _, p | .num _, p => by
    simp only [timestampPaths, List.not_mem_nil, false_iff]
    exact fun ⟨r, hr, _⟩ => not_revivableAt_of_scalar (by simp) (by simp) (by simp) r hr

/-- The paths listed below the members of an object. -/
theorem mem_timestampPathsFields_iff (path : List String) : ∀ (fields : List (String × Value))
    (p : String), p ∈ timestampPathsFields path fields ↔ ∃ k w r, (k, w) ∈ fields ∧ RevivableAt w r ∧
      p = ".".intercalate (path.reverse ++ k :: r.map PathStep.segment)
  | [], p => by simp [timestampPathsFields]
  | (k, w) :: rest, p => by
    rw [timestampPathsFields, List.mem_append, mem_timestampPaths_iff (k :: path) w p,
      mem_timestampPathsFields_iff path rest p]
    constructor
    · rintro (⟨r, hr, -, rfl⟩ | ⟨k', w', r, hm, hr, rfl⟩)
      · exact ⟨k, w, r, List.mem_cons_self, hr, by simp⟩
      · exact ⟨k', w', r, List.mem_cons_of_mem _ hm, hr, rfl⟩
    · rintro ⟨k', w', r, hm, hr, rfl⟩
      rcases List.mem_cons.mp hm with heq | hm
      · cases heq
        exact .inl ⟨r, hr, .inl (by simp), by simp⟩
      · exact .inr ⟨k', w', r, hm, hr, rfl⟩

/-- The paths listed below the elements of an array, counted from `i`. -/
theorem mem_timestampPathsItems_iff (path : List String) : ∀ (i : Nat) (items : List Value)
    (p : String), p ∈ timestampPathsItems path i items ↔ ∃ j w r, items[j]? = some w ∧
      RevivableAt w r ∧ p = ".".intercalate (path.reverse ++ toString (i + j) :: r.map PathStep.segment)
  | i, [], p => by simp [timestampPathsItems]
  | i, w :: rest, p => by
    rw [timestampPathsItems, List.mem_append, mem_timestampPaths_iff (toString i :: path) w p,
      mem_timestampPathsItems_iff path (i + 1) rest p]
    constructor
    · rintro (⟨r, hr, -, rfl⟩ | ⟨j, w', r, hj, hr, rfl⟩)
      · exact ⟨0, w, r, rfl, hr, by simp⟩
      · exact ⟨j + 1, w', r, hj, hr, by rw [Nat.add_assoc, Nat.add_comm 1 j]⟩
    · rintro ⟨j, w', r, hj, hr, rfl⟩
      cases j with
      | zero =>
        cases hj
        exact .inl ⟨r, hr, .inl (by simp), by simp⟩
      | succ j => exact .inr ⟨j, w', r, hj, hr, by rw [Nat.add_assoc, Nat.add_comm 1 j]⟩

end

/-- A document's listing is the dotted joins of the routes to revivable texts below the top. -/
theorem mem_timestampFields_iff (v : Value) (p : String) :
    p ∈ timestampFields v ↔ ∃ r, r ≠ [] ∧ RevivableAt v r ∧ p = ".".intercalate (r.map PathStep.segment) := by
  rw [timestampFields, mem_timestampPaths_iff]
  simp only [ne_eq, not_true_eq_false, false_or, List.reverse_nil, List.nil_append]
  exact ⟨fun ⟨r, hr, hne, hp⟩ => ⟨r, hne, hr, hp⟩, fun ⟨r, hne, hr, hp⟩ => ⟨r, hr, hne, hp⟩⟩

/-! ## Reading paths back -/

namespace Value

theorem mem_of_lookup_eq_some {fields : List (String × Value)} {k : String} {w : Value}
    (h : lookup fields k = some w) : (k, w) ∈ fields := by
  induction fields with
  | nil => simp [lookup] at h
  | cons kv rest ih =>
    obtain ⟨k', w'⟩ := kv
    rw [lookup_cons] at h
    split at h
    · cases h
      rename_i hk
      exact hk ▸ List.mem_cons_self
    · exact List.mem_cons_of_mem _ (ih h)

theorem lookup_eq_some_of_mem {fields : List (String × Value)} (hnd : (fields.map Prod.fst).Nodup)
    {k : String} {w : Value} (h : (k, w) ∈ fields) : lookup fields k = some w := by
  induction fields with
  | nil => simp at h
  | cons kv rest ih =>
    obtain ⟨k', w'⟩ := kv
    rw [List.map_cons, List.nodup_cons] at hnd
    rw [lookup_cons]
    rcases List.mem_cons.mp h with heq | hm
    · cases heq
      simp
    · have hk : k' ≠ k := fun e => hnd.1 (List.mem_map.mpr ⟨(k, w), hm, e.symm⟩)
      rw [if_neg hk]
      exact ih hnd.2 hm

/-- A walk through objects is a route of member steps. -/
theorem reaches_of_atPath : ∀ {v : Value} {keys : List String} {u : Value},
    v.atPath keys = some u → Reaches v (keys.map .member) u
  | v, [], u, h => by
    cases h
    exact .here v
  | v, k :: rest, u, h => by
    cases v with
    | obj fields =>
      rw [atPath_obj_cons, Option.bind_eq_some_iff] at h
      obtain ⟨w, hw, hrest⟩ := h
      exact .member (mem_of_lookup_eq_some hw) (reaches_of_atPath hrest)
    | _ => simp [atPath, field?] at h

/-- A route of member steps is the walk through objects, when keys are distinct. -/
theorem atPath_of_reaches : ∀ {v : Value} {keys : List String} {u : Value}, KeysDistinct v →
    Reaches v (keys.map .member) u → v.atPath keys = some u
  | v, [], u, _, h => by
    cases h
    rfl
  | _, k :: rest, u, hv, h => by
    cases h with
    | @member fields _ w _ _ hm hr =>
      rw [atPath_obj_cons, lookup_eq_some_of_mem (hv [] fields (.here _)) hm]
      exact atPath_of_reaches (hv.member hm) hr

end Value

/-- A path a snapshot reads a timestamp at leads through objects to a revivable text. -/
theorem getTimestamp_eq_some_iff (ref : DocumentRef) (v : Value) (p : String) (t : Instant) :
    (⟨ref, some v⟩ : DocumentSnapshot).getTimestamp p = some t ↔
      ∃ s, v.getField p = some (.str s) ∧ parseTimestamp s = some t := by
  simp only [DocumentSnapshot.getTimestamp, DocumentSnapshot.get, Option.bind_some]
  cases v.getField p with
  | none => simp
  | some w => cases w <;> simp

/-- Every path a snapshot reads a timestamp at is listed. -/
theorem mem_timestampFields_of_getTimestamp {ref : DocumentRef} {v : Value} {p : String} {t : Instant}
    (h : (⟨ref, some v⟩ : DocumentSnapshot).getTimestamp p = some t) : p ∈ timestampFields v := by
  obtain ⟨s, hs, ht⟩ := (getTimestamp_eq_some_iff ref v p t).mp h
  rw [mem_timestampFields_iff]
  refine ⟨(dotSegments p).map .member, by simpa using dotSegments_ne_nil p,
    ⟨s, Value.reaches_of_atPath hs, by simp [ht]⟩, ?_⟩
  rw [List.map_map]
  simpa [Function.comp_def, PathStep.segment] using (intercalate_dotSegments p).symm

/-- A route through members whose keys hold no dot reads back at its dotted join, when keys are
distinct. -/
theorem getTimestamp_intercalate {v : Value} (hv : KeysDistinct v) (ref : DocumentRef)
    {keys : List String} {s : String} (hne : keys ≠ []) (hdots : ∀ k ∈ keys, '.' ∉ k.toList)
    (h : Reaches v (keys.map .member) (.str s)) :
    (⟨ref, some v⟩ : DocumentSnapshot).getTimestamp (".".intercalate keys) = parseTimestamp s := by
  simp only [DocumentSnapshot.getTimestamp, DocumentSnapshot.get, Option.bind_some, Value.getField,
    dotSegments_intercalate hne hdots, Value.atPath_of_reaches hv h]

/-! ## Each path once -/

/-- Two listed paths below the same path (kept reversed, as the listing keeps it) and with
different next segments differ, when no segment holds a dot. -/
theorem intercalate_ne_of_segment_ne {path : List String} {a b : String} {ra rb : List String}
    (hpath : ∀ s ∈ path, '.' ∉ s.toList) (ha : '.' ∉ a.toList) (hb : '.' ∉ b.toList)
    (hra : ∀ s ∈ ra, '.' ∉ s.toList) (hrb : ∀ s ∈ rb, '.' ∉ s.toList) (hab : a ≠ b) :
    ".".intercalate ((a :: path).reverse ++ ra) ≠ ".".intercalate (path.reverse ++ b :: rb) := by
  rw [List.reverse_cons, List.append_assoc, List.singleton_append]
  have hsegs : ∀ {c : String} {rc : List String}, '.' ∉ c.toList → (∀ s ∈ rc, '.' ∉ s.toList) →
      ∀ s ∈ path.reverse ++ c :: rc, '.' ∉ s.toList := by
    intro c rc hc hrc s hs
    simp only [List.mem_append, List.mem_reverse, List.mem_cons] at hs
    rcases hs with hs | rfl | hs
    exacts [hpath s hs, hc, hrc s hs]
  intro h
  have hseg := congrArg dotSegments h
  rw [dotSegments_intercalate (by simp) (hsegs ha hra), dotSegments_intercalate (by simp) (hsegs hb hrb)] at hseg
  exact hab (List.cons.inj (List.append_cancel_left hseg)).1

/-- The segments of a route to a revivable text hold no dot when no key does. -/
theorem RevivableAt.segments_undotted {v : Value} {r : List PathStep} (h : RevivableAt v r)
    (hv : KeysUndotted v) : ∀ s ∈ r.map PathStep.segment, '.' ∉ s.toList := by
  obtain ⟨_, hr, -⟩ := h
  simpa using hr.segments_undotted hv

mutual

/-- Below a value whose keys are distinct and hold no dot, each path is listed once. -/
theorem nodup_timestampPaths (path : List String) (hpath : ∀ s ∈ path, '.' ∉ s.toList) :
    ∀ (v : Value), KeysDistinct v → KeysUndotted v → (timestampPaths path v).Nodup
  | .str s, _, _ => by
    simp only [timestampPaths]
    split <;> simp
  | .obj fields, hd, hu => by
    rw [timestampPaths]
    exact nodup_timestampPathsFields path hpath fields (hd [] fields (.here _))
      (fun _ _ hm => hd.member hm) (fun _ _ hm => hu.member hm) (hu [] fields (.here _))
  | .arr items, hd, hu => by
    rw [timestampPaths]
    exact nodup_timestampPathsItems path hpath 0 items (fun _ _ hj => hd.element hj)
      (fun _ _ hj => hu.element hj)
  | .null, _, _ | .bool _, _, _ | .num _, _, _ => List.nodup_nil

/-- Below the members of an object with distinct keys without dots, each path is listed once. -/
theorem nodup_timestampPathsFields (path : List String) (hpath : ∀ s ∈ path, '.' ∉ s.toList) :
    ∀ (fields : List (String × Value)), (fields.map Prod.fst).Nodup →
      (∀ k w, (k, w) ∈ fields → KeysDistinct w) → (∀ k w, (k, w) ∈ fields → KeysUndotted w) →
      (∀ kv ∈ fields, '.' ∉ kv.1.toList) → (timestampPathsFields path fields).Nodup
  | [], _, _, _, _ => List.nodup_nil
  | (k, w) :: rest, hnd, hd, hu, hk => by
    rw [List.map_cons, List.nodup_cons] at hnd
    rw [timestampPathsFields, List.nodup_append]
    have hkpath : ∀ s ∈ k :: path, '.' ∉ s.toList := by
      rintro s (_ | ⟨_, hs⟩)
      exacts [hk (k, w) List.mem_cons_self, hpath s hs]
    refine ⟨nodup_timestampPaths (k :: path) hkpath w (hd k w List.mem_cons_self)
        (hu k w List.mem_cons_self),
      nodup_timestampPathsFields path hpath rest hnd.2 (fun k' w' hm => hd k' w' (.tail _ hm))
        (fun k' w' hm => hu k' w' (.tail _ hm)) (fun kv hm => hk kv (.tail _ hm)), ?_⟩
    -- the two parts differ in the segment after `path`: `k` against a later key
    intro a ha b hb
    obtain ⟨r, hr, -, rfl⟩ := (mem_timestampPaths_iff (k :: path) w a).mp ha
    obtain ⟨k', w', r', hm, hr', rfl⟩ := (mem_timestampPathsFields_iff path rest b).mp hb
    exact intercalate_ne_of_segment_ne hpath (hk (k, w) List.mem_cons_self) (hk (k', w') (.tail _ hm))
      (hr.segments_undotted (hu k w List.mem_cons_self))
      (hr'.segments_undotted (hu k' w' (.tail _ hm)))
      (fun e => hnd.1 (List.mem_map.mpr ⟨(k', w'), hm, e.symm⟩))

/-- Below the elements of an array whose keys are distinct and hold no dot, each path is listed
once. -/
theorem nodup_timestampPathsItems (path : List String) (hpath : ∀ s ∈ path, '.' ∉ s.toList) :
    ∀ (i : Nat) (items : List Value), (∀ (j : Nat) (w : Value), items[j]? = some w → KeysDistinct w) →
      (∀ (j : Nat) (w : Value), items[j]? = some w → KeysUndotted w) →
      (timestampPathsItems path i items).Nodup
  | _, [], _, _ => List.nodup_nil
  | i, w :: rest, hd, hu => by
    rw [timestampPathsItems, List.nodup_append]
    have hipath : ∀ s ∈ toString i :: path, '.' ∉ s.toList := by
      rintro s (_ | ⟨_, hs⟩)
      exacts [dot_not_mem_toString i, hpath s hs]
    refine ⟨nodup_timestampPaths (toString i :: path) hipath w (hd 0 w rfl) (hu 0 w rfl),
      nodup_timestampPathsItems path hpath (i + 1) rest (fun j w' hj => hd (j + 1) w' hj)
        (fun j w' hj => hu (j + 1) w' hj), ?_⟩
    -- the two parts differ in the segment after `path`: `i` against a later position
    intro a ha b hb
    obtain ⟨r, hr, -, rfl⟩ := (mem_timestampPaths_iff (toString i :: path) w a).mp ha
    obtain ⟨j, w', r', hj, hr', rfl⟩ := (mem_timestampPathsItems_iff path (i + 1) rest b).mp hb
    exact intercalate_ne_of_segment_ne hpath (dot_not_mem_toString i) (dot_not_mem_toString _)
      (hr.segments_undotted (hu 0 w rfl)) (hr'.segments_undotted (hu (j + 1) w' hj))
      (fun e => by have := toString_injective e; omega)

end

/-- In data whose keys are distinct and hold no dot, each path is listed once. -/
theorem nodup_timestampFields {v : Value} (hd : KeysDistinct v) (hu : KeysUndotted v) :
    (timestampFields v).Nodup :=
  nodup_timestampPaths [] (by simp) v hd hu

/-! ## The listing against the reader -/

/-- What `timestampFields` lists, against what a snapshot's `getTimestamp` reads. -/
structure ListsRevivablePaths (v : Value) : Prop where
  /-- The listing is the dotted joins of the routes to revivable texts below the top. -/
  listed : ∀ p, p ∈ timestampFields v ↔
    ∃ r, r ≠ [] ∧ RevivableAt v r ∧ p = ".".intercalate (r.map PathStep.segment)
  /-- Every path a snapshot reads a timestamp at is listed. -/
  read_listed : ∀ ref p t, (⟨ref, some v⟩ : DocumentSnapshot).getTimestamp p = some t →
    p ∈ timestampFields v
  /-- A listed route through members whose keys hold no dot reads back, when keys are
  distinct. -/
  listed_read : KeysDistinct v → ∀ ref keys, keys ≠ [] → (∀ k ∈ keys, '.' ∉ k.toList) →
    RevivableAt v (keys.map .member) →
    ((⟨ref, some v⟩ : DocumentSnapshot).getTimestamp (".".intercalate keys)).isSome
  /-- When keys are distinct and hold no dot, each path is listed once. -/
  once : KeysDistinct v → KeysUndotted v → (timestampFields v).Nodup

/-- The paths offered for date revival, against the paths a snapshot reads timestamps at. -/
theorem timestampFields_revivable (v : Value) : ListsRevivablePaths v where
  listed := mem_timestampFields_iff v
  read_listed _ _ _ h := mem_timestampFields_of_getTimestamp h
  listed_read hv ref _ hne hdots := fun ⟨_, hr, hp⟩ => by
    rw [getTimestamp_intercalate hv ref hne hdots hr]
    exact hp
  once := nodup_timestampFields

/-- The listing and the reader part: an array element is listed by its position but is not read,
a dotted key is listed but is not read, and a dotted key naming the path of a nested member lists
that path twice. -/
theorem timestampFields_lists_unread_paths :
    timestampFields (.obj [("a", .arr [.str "2020-01-01T00:00:00Z"])]) = ["a.0"] ∧
      (⟨⟨"c", "d"⟩, some (.obj [("a", .arr [.str "2020-01-01T00:00:00Z"])])⟩ :
        DocumentSnapshot).getTimestamp "a.0" = none ∧
    timestampFields (.obj [("x", .obj [("y.z", .str "2020-01-01T00:00:00Z")])]) = ["x.y.z"] ∧
      (⟨⟨"c", "d"⟩, some (.obj [("x", .obj [("y.z", .str "2020-01-01T00:00:00Z")])])⟩ :
        DocumentSnapshot).getTimestamp "x.y.z" = none ∧
    timestampFields (.obj [("m.n", .str "2020-01-01T00:00:00Z"),
        ("m", .obj [("n", .str "2020-01-01T00:00:00Z")])]) = ["m.n", "m.n"] ∧
      (⟨⟨"c", "d"⟩, some (.obj [("m.n", .str "2020-01-01T00:00:00Z"),
        ("m", .obj [("n", .str "2020-01-01T00:00:00Z")])])⟩ :
        DocumentSnapshot).getTimestamp "m.n" = some ⟨1577836800, 0⟩ := by
  decide

end DocStore
