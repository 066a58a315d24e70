import GameBoy.Bus.Cartridge
import Mathlib.Tactic.Lemma

/-!
# Headers of short images

Bytes behind the end of an image count as zeros in a header: its numbers are those of the image filled
up with zeros, however short the image is, and so is its title, unless the image ends inside the title.
Such an image has no title, and gets one when it is filled up (`header_of_short_image`).
-/

namespace GameBoy.Header

/-- The byte of an image at an offset; a missing one is zero. -/
def byteAt (image : Image) (i : Nat) : UInt8 := image[i]?.getD 0

/-- The bytes from 0x134 to 0x143, the missing ones as zeros. -/
def titleField (image : Image) : List UInt8 := (List.range 16).map fun i => byteAt image (0x134 + i)

/-- The bytes before the first zero as a text, each of them the character of its number. -/
def latin1 (bytes : List UInt8) : String :=
  String.ofList ((bytes.takeWhile (· != 0)).map fun b => Char.ofNat b.toNat)

/-- The image ends inside its title: it has the first character of a title, and no room for all. -/
def EndsInTitle (image : Image) : Prop := image.size < 0x144 ∧ byteAt image 0x134 ≠ 0

instance (image : Image) : Decidable (EndsInTitle image) :=
  inferInstanceAs (Decidable (image.size < 0x144 ∧ byteAt image 0x134 ≠ 0))

variable {image image' : Image} {k : Nat}

/-! ## Titles -/

/-- The title field begins at 0x134. -/
lemma titleField_cons (image : Image) :
    titleField image =
      byteAt image 0x134 :: (List.range 15).map fun i => byteAt image (0x134 + (i + 1)) := by
  rw [titleField, List.range_succ_eq_map, List.map_cons, List.map_map]
  rfl

/-- A title is empty exactly if it begins with a zero. -/
lemma latin1_titleField_eq_empty_iff : latin1 (titleField image) = "" ↔ byteAt image 0x134 = 0 := by
  rw [titleField_cons, latin1, List.takeWhile_cons]
  by_cases h : byteAt image 0x134 = 0
  · simp [h]
  · simp [h, ← String.toList_inj]

/-- An image that reaches behind the title field has all bytes of it. -/
lemma titleBytes_of_le (h : 0x144 ≤ image.size) : titleBytes image = titleField image := by
  rw [titleBytes, if_pos h]
  refine List.ext_getElem ?_ fun i hi hi' => ?_
  · simp only [titleField, Array.length_toList, Array.size_extract, List.length_map,
      List.length_range]
    omega
  · have hsize : 0x134 + i < image.size := by
      simp only [titleField, List.length_map, List.length_range] at hi'
      omega
    simp [titleField, byteAt, Array.getElem?_eq_getElem hsize]

/-- The title is the text of its field, or empty where the image ends in it. -/
lemma title_parse (image : Image) :
    (parse image).title = if EndsInTitle image then "" else latin1 (titleField image) := by
  have htitle : (parse image).title = latin1 (titleBytes image) := rfl
  rw [htitle]
  by_cases hsize : image.size < 0x144
  · rw [titleBytes, if_neg (Nat.not_le.mpr hsize)]
    by_cases h : byteAt image 0x134 = 0
    · rw [if_neg fun he => he.2 h, latin1_titleField_eq_empty_iff.mpr h]
      rfl
    · rw [if_pos ⟨hsize, h⟩]
      rfl
  · rw [if_neg fun he => hsize he.1, titleBytes_of_le (Nat.not_lt.mp hsize)]

/-- What a header is made of. -/
lemma parse_eq (image : Image) :
    parse image =
      { title := if EndsInTitle image then "" else latin1 (titleField image)
        cartType := byteAt image 0x147
        romSize := byteAt image 0x148
        ramSize := byteAt image 0x149 } := by
  rw [← title_parse]
  simp [parse, byteAt]

/-! ## Changes of the image -/

/-- The title field depends on its bytes only. -/
lemma titleField_congr (h : ∀ i < 0x14a, byteAt image' i = byteAt image i) :
    titleField image' = titleField image :=
  List.map_congr_left fun i hi => h _ (by have := List.mem_range.mp hi; omega)

/-- Headers depend on the bytes up to 0x149 and on where the image ends among them. -/
lemma parse_congr (h : ∀ i < 0x14a, byteAt image' i = byteAt image i)
    (hend : EndsInTitle image' ↔ EndsInTitle image) : parse image' = parse image := by
  simp only [parse_eq, titleField_congr h, hend, h 0x147 (by decide), h 0x148 (by decide),
    h 0x149 (by decide)]

/-- Cutting an image off keeps the bytes before the cut. -/
lemma byteAt_extract (image : Image) {n i : Nat} (h : i < n) :
    byteAt (image.extract 0 n) i = byteAt image i := by
  unfold byteAt
  grind

/-- What stands behind 0x149 is not read. -/
lemma parse_extract (image : Image) : parse (image.extract 0 0x14a) = parse image := by
  refine parse_congr (fun i hi => byteAt_extract image hi) ?_
  rw [EndsInTitle, EndsInTitle, byteAt_extract image (by decide), Array.size_extract]
  refine and_congr_left fun _ => ?_
  omega

/-- Zeros behind the end of an image do not show in its bytes. -/
lemma byteAt_padded (image : Image) (k i : Nat) :
    byteAt (image ++ Array.replicate k 0) i = byteAt image i := by
  unfold byteAt
  grind

/-- Zeros behind the end of an image may complete its title field. -/
lemma endsInTitle_padded :
    EndsInTitle (image ++ Array.replicate k 0) ↔ EndsInTitle image ∧ image.size + k < 0x144 := by
  rw [EndsInTitle, EndsInTitle, byteAt_padded, Array.size_append, Array.size_replicate]
  constructor
  · rintro ⟨hsize, hbyte⟩
    exact ⟨⟨by omega, hbyte⟩, hsize⟩
  · rintro ⟨⟨-, hbyte⟩, hsize⟩
    exact ⟨hsize, hbyte⟩

/-- Zeros at the end of an image are not seen, unless they complete its title. -/
lemma parse_padded_iff :
    parse (image ++ Array.replicate k 0) = parse image ↔
      ¬(EndsInTitle image ∧ 0x144 ≤ image.size + k) := by
  by_cases hend : EndsInTitle image ∧ 0x144 ≤ image.size + k
  · -- the filled image shows the title, which begins with what the image has of it
    refine iff_of_false (fun e => ?_) fun h => h hend
    obtain ⟨hin, hk⟩ := hend
    have hout : ¬EndsInTitle (image ++ Array.replicate k 0) := fun h =>
      absurd (endsInTitle_padded.mp h).2 (Nat.not_lt.mpr hk)
    have htitle := congrArg Header.title e
    rw [title_parse, title_parse, if_neg hout, if_pos hin, latin1_titleField_eq_empty_iff,
      byteAt_padded] at htitle
    exact hin.2 htitle
  · refine iff_of_true (parse_congr (fun i _ => byteAt_padded image k i) ?_) hend
    rw [endsInTitle_padded]
    exact ⟨And.left, fun hin => ⟨hin, Nat.lt_of_not_le fun hk => hend ⟨hin, hk⟩⟩⟩

/-- What a header says of an image of any length. Its numbers are the bytes at their offsets, or 0 where
the image is shorter. Its title is the text of the title field up to the first zero, missing bytes
being zeros, but an image that ends inside its title has none. Nothing behind 0x149 matters. Zeros
at the end change the header exactly if they fill up a title in which the image ends. -/
theorem header_of_short_image (image : Image) :
    (parse image).cartType = byteAt image 0x147 ∧
    (parse image).romSize = byteAt image 0x148 ∧
    (parse image).ramSize = byteAt image 0x149 ∧
    ((parse image).title = if EndsInTitle image then "" else latin1 (titleField image)) ∧
    ((parse image).title = latin1 (titleField image) ↔ ¬EndsInTitle image) ∧
    parse (image.extract 0 0x14a) = parse image ∧
    ∀ k, parse (image ++ Array.replicate k 0) = parse image ↔
      ¬(EndsInTitle image ∧ 0x144 ≤ image.size + k) := by
  refine ⟨by rw [parse_eq], by rw [parse_eq], by rw [parse_eq], title_parse image, ?_,
    parse_extract image, fun k => parse_padded_iff⟩
  · rw [title_parse]
    by_cases hend : EndsInTitle image
    · rw [if_pos hend, eq_comm, latin1_titleField_eq_empty_iff]
      exact iff_of_false hend.2 fun h => h hend
    · rw [if_neg hend]
      exact iff_of_true rfl hend

/-- An image that ends four bytes too early for its title has none. With four zeros more it is
called CUT. -/
theorem zeros_complete_title :
    let image : Image := Array.replicate 0x134 0 ++ #[0x43, 0x55, 0x54] ++ Array.replicate 9 0
    (parse image).title = "" ∧ latin1 (titleField image) = "CUT" ∧
      (parse (image ++ Array.replicate 4 0)).title = "CUT" ∧
      parse (image ++ Array.replicate 4 0) ≠ parse image := by
  decide +kernel

end GameBoy.Header
