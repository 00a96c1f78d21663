import DocStore.Image
import Mathlib.Tactic.SplitIfs
/-!
# The header check of an imported image

Before an image replaces a store, `Image.checkHeader` reads its 100-byte header. The check
accepts exactly the images whose header is well formed (`checkHeader_ok_iff`), where
`WellFormedHeader` says it with the header's fields read straight off the bytes:

* the image has the whole header and starts with the 16 bytes of `SQLite format 3` and a NUL;
* the page size, the big-endian 16-bit number at offset 16 with `1` standing for 65536, is a
  power of two between 512 and 65536, and the image is a whole number of such pages;
* when the version-valid-for number (bytes 92 to 95) equals the change counter (bytes 24 to 27),
  the big-endian page count at offset 28 times the page size does not exceed the image.

The check reads each field through `bigEndian` of a `slice`, and tests the power of two against
the first seventeen powers; the lemmas below read these back as the numbers above.
-/

namespace DocStore

namespace Image

/-! ## The header's fields -/

/-- The page size a header declares: the big-endian 16-bit number at offset 16, where `1`
stands for 65536. -/
def declaredPageSize (image : List UInt8) : Nat :=
  let n := (image.getD 16 0).toNat * 256 + (image.getD 17 0).toNat
  if n = 1 then 65536 else n

/-- The page count a header declares: the big-endian 32-bit number at offset 28. -/
def declaredPageCount (image : List UInt8) : Nat :=
  (((image.getD 28 0).toNat * 256 + (image.getD 29 0).toNat) * 256 + (image.getD 30 0).toNat) * 256 +
    (image.getD 31 0).toNat

/-- A header the import accepts. -/
structure WellFormedHeader (image : List UInt8) : Prop where
  /-- The whole 100-byte header is there. -/
  long : 100 ≤ image.length
  /-- It starts with `SQLite format 3` and a NUL. -/
  magic : [83, 81, 76, 105, 116, 101, 32, 102, 111, 114, 109, 97, 116, 32, 51, 0] <+: image
  /-- The page size is a power of two between 512 and 65536. -/
  pageSize_pow : (declaredPageSize image).isPowerOfTwo
  pageSize_ge : 512 ≤ declaredPageSize image
  pageSize_le : declaredPageSize image ≤ 65536
  /-- The image is a whole number of pages. -/
  whole : image.length % declaredPageSize image = 0
  /-- A page count stamped with the change counter asks for no more than the image holds. -/
  fits : image.extract 24 28 = image.extract 92 96 →
    declaredPageCount image * declaredPageSize image ≤ image.length

theorem magic_eq : magic = [83, 81, 76, 105, 116, 101, 32, 102, 111, 114, 109, 97, 116, 32, 51, 0] :=
  rfl

/-- Bytes within the image are sliced as they stand. -/
theorem slice_eq_extract (image : List UInt8) (start len : Nat) :
    slice image start len = image.extract start (start + len) := by
  rw [slice, List.extract_eq_take_drop, Nat.add_sub_cancel_left]

/-- Two bytes inside the image, as a slice. -/
theorem slice_two {image : List UInt8} {i : Nat} (h : i + 2 ≤ image.length) :
    slice image i 2 = [image.getD i 0, image.getD (i + 1) 0] := by
  have hi : i < image.length := by omega
  have hi' : i + 1 < image.length := by omega
  rw [slice, List.getD_eq_getElem?_getD, List.getD_eq_getElem?_getD, List.getElem?_eq_getElem hi,
    List.getElem?_eq_getElem hi', Option.getD_some, Option.getD_some,
    List.drop_eq_getElem_cons hi, List.drop_eq_getElem_cons hi']
  rfl

/-- Four bytes inside the image, as a slice. -/
theorem slice_four {image : List UInt8} {i : Nat} (h : i + 4 ≤ image.length) :
    slice image i 4 = [image.getD i 0, image.getD (i + 1) 0, image.getD (i + 2) 0, image.getD (i + 3) 0] := by
  have hsplit : slice image i 4 = slice image i 2 ++ slice image (i + 2) 2 := by
    rw [slice, slice, slice, ← List.drop_drop, ← List.take_append_drop 2 (List.take 4 (List.drop i image)),
      List.take_take, List.drop_take]
    rfl
  rw [hsplit, slice_two (by omega), slice_two (by omega), Nat.add_assoc]
  rfl

/-- The check reads the page size as the header declares it. -/
theorem pageSize_eq {image : List UInt8} (h : 100 ≤ image.length) :
    pageSize image = declaredPageSize image := by
  simp only [pageSize, declaredPageSize, slice_two (show 16 + 2 ≤ image.length by omega), bigEndian,
    List.foldl_cons, List.foldl_nil, Nat.zero_mul, Nat.zero_add]
  split <;> simp_all

/-- The check reads the page count as the header declares it. -/
theorem bigEndian_pageCount {image : List UInt8} (h : 100 ≤ image.length) :
    bigEndian (slice image 28 4) = declaredPageCount image := by
  simp [slice_four (show 28 + 4 ≤ image.length by omega), bigEndian, declaredPageCount]

/-- Up to `2 ^ 16`, testing the first seventeen powers of two is testing for a power of two. -/
theorem isPowerOfTwo_iff {n : Nat} (hn : n ≤ 65536) : isPowerOfTwo n = true ↔ n.isPowerOfTwo := by
  simp only [isPowerOfTwo, Bool.and_eq_true, decide_eq_true_eq, List.any_eq_true, List.mem_range,
    Nat.pow_eq, Nat.isPowerOfTwo]
  constructor
  · rintro ⟨-, k, -, hk⟩
    exact ⟨k, hk.symm⟩
  · rintro ⟨k, rfl⟩
    have hk : 2 ^ k < 2 ^ 17 := Nat.lt_of_le_of_lt hn (by decide)
    exact ⟨Nat.pos_iff_ne_zero.mp (Nat.two_pow_pos k), k, (Nat.pow_lt_pow_iff_right (by decide)).mp hk,
      by simp⟩

/-- The magic is a prefix exactly when the first sixteen bytes are it. -/
theorem take_eq_magic_iff (image : List UInt8) : image.take 16 = magic ↔
    [83, 81, 76, 105, 116, 101, 32, 102, 111, 114, 109, 97, 116, 32, 51, 0] <+: image := by
  rw [List.prefix_iff_eq_take, magic_eq, eq_comm]
  rfl

/-! ## The check -/

/-- The header check finds no problem exactly when the header is well formed. -/
theorem headerProblem_eq_none_iff (image : List UInt8) :
    headerProblem image = none ↔ WellFormedHeader image := by
  unfold headerProblem
  dsimp only
  split_ifs with hhead hsize hwhole htrunc
  · -- no header
    simp only [false_iff]
    intro h
    rcases hhead with hshort | hmagic
    · exact absurd h.long (by omega)
    · exact hmagic ((take_eq_magic_iff image).mpr h.magic)
  all_goals
    obtain ⟨hlong, hmagic⟩ : 100 ≤ image.length ∧ image.take 16 = magic := by
      simpa [not_or, Nat.not_lt] using hhead
    rw [pageSize_eq hlong] at *
  · -- a page size out of range or not a power of two
    simp only [false_iff]
    intro h
    rcases hsize with hrange | hpow
    · have := h.pageSize_ge
      have := h.pageSize_le
      simp only [Bool.not_eq_eq_eq_not, Bool.not_true, decide_eq_false_iff_not] at hrange
      omega
    · exact absurd ((isPowerOfTwo_iff h.pageSize_le).mpr h.pageSize_pow) (by simpa using hpow)
  · -- not a whole number of pages
    simp only [false_iff]
    exact fun h => hwhole h.whole
  all_goals
    obtain ⟨hrange, hpow⟩ : (512 ≤ declaredPageSize image ∧ declaredPageSize image ≤ 65536) ∧
        isPowerOfTwo (declaredPageSize image) = true := by
      simpa [not_or] using hsize
    rw [bigEndian_pageCount hlong, slice_eq_extract, slice_eq_extract] at htrunc
  · -- a stamped page count beyond the image
    simp only [false_iff]
    intro h
    obtain ⟨hstamp, hgt⟩ := htrunc
    exact absurd (h.fits (by simpa using hstamp)) (Nat.not_le_of_lt hgt)
  · -- every check passed
    simp only [true_iff]
    refine ⟨hlong, (take_eq_magic_iff image).mp hmagic, (isPowerOfTwo_iff hrange.2).mp hpow, hrange.1,
      hrange.2, by simpa using hwhole, fun hstamp => ?_⟩
    exact Nat.le_of_not_lt fun hgt => htrunc ⟨by simpa using hstamp, hgt⟩

/-- The header check accepts an image exactly when its header is well formed. -/
theorem checkHeader_ok_iff (image : List UInt8) : checkHeader image = .ok () ↔ WellFormedHeader image := by
  rw [← headerProblem_eq_none_iff, checkHeader]
  split <;> simp_all

set_option maxRecDepth 10000 in
/-- A page count of two pages in a one-page image passes when the change counter does not vouch
for it. -/
example : checkHeader (magic ++ [2, 0] ++ List.replicate 6 0 ++ [0, 0, 0, 1] ++ [0, 0, 0, 2] ++
    List.replicate 480 0) = .ok () := by
  rfl

end Image

end DocStore
