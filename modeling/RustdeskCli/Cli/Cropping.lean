import RustdeskCli.Cli.Responses
set_option autoImplicit false

/-!
# Cli: from a region text to the cropped image (`src/main.rs`, `src/capture.rs`)

A region is read as four `i32`, cast to `u32` and added up again, checked, in another
module.  A negative coordinate is then a number near `2 ^ 32`: its sum with the width
overflows, or is past every image.  So the comparison there is the comparison over the
integers.
-/

namespace RustdeskCli.Cli

open RustdeskCli.Foundation
open RustdeskCli.Session
open RustdeskCli.Capture

/-! ## The cast -/

/-- The `as u32` cast of an `i32`. -/
theorem toNat_toUInt32 (n : Int32) :
    (n.toUInt32.toNat : Int) = if 0 ≤ n.toInt then n.toInt else n.toInt + 2 ^ 32 := by
  have hcond : n.toInt = if 2 * n.toUInt32.toNat < 2 ^ 32 then (n.toUInt32.toNat : Int)
      else (n.toUInt32.toNat : Int) - (2 ^ 32 : Nat) := BitVec.toInt_eq_toNat_cond n.toBitVec
  have hlt := n.toUInt32.toNat_lt
  split at hcond <;> split <;> omega

/-- One side of the region lies inside the image, as `crop_image` checks it: the sum does not
overflow and is within the extent. -/
def SideFits (start length extent : UInt32) : Prop :=
  start.toNat + length.toNat < 2 ^ 32 ∧ start + length ≤ extent

/-- The check of one side decides the integer comparison: a negative start ends past every
extent, or overflows. -/
theorem sideFits_iff {start length : Int32} {extent : UInt32} (hlength : 0 < length)
    (hextent : extent.toNat < 2 ^ 31) :
    SideFits start.toUInt32 length.toUInt32 extent ↔
      0 ≤ start.toInt ∧ start.toInt + length.toInt ≤ extent.toNat := by
  have hpos : 0 < length.toInt := Int32.lt_iff_toInt_lt.mp hlength
  have hstart := toNat_toUInt32 start
  have hsize := toNat_toUInt32 length
  have hle := Int32.le_toInt start
  rw [if_pos hpos.le] at hsize
  have hsum (h : start.toUInt32.toNat + length.toUInt32.toNat < 2 ^ 32) :
      (start.toUInt32 + length.toUInt32).toNat =
        start.toUInt32.toNat + length.toUInt32.toNat := by
    rw [UInt32.toNat_add, Nat.mod_eq_of_lt h]
  unfold SideFits
  rw [UInt32.le_iff_toNat_le]
  constructor
  · rintro ⟨hfits, hend⟩
    rw [hsum hfits] at hend
    split at hstart <;> omega
  · rintro ⟨hnonneg, hend⟩
    rw [if_pos hnonneg] at hstart
    have hfits : start.toUInt32.toNat + length.toUInt32.toNat < 2 ^ 32 := by omega
    refine ⟨hfits, ?_⟩
    rw [hsum hfits]
    omega

/-! ## The check of the region -/

section Cropping

variable {ι : Type} (lib : ImageLib ι)

/-- `crop_image` crops exactly when both sides fit, and then it returns what the library
crops. -/
theorem cropImage_ok_iff (image cropped : ι) (region : CaptureRegion) :
    cropImage lib image region = .ok cropped ↔
      (SideFits region.x region.w (lib.dimensions image).1 ∧
        SideFits region.y region.h (lib.dimensions image).2) ∧
        lib.cropImm image region = cropped := by
  unfold cropImage SideFits
  simp only
  split
  · rename_i hoverflow
    refine iff_of_false (by intro h; cases h) ?_
    rintro ⟨⟨hx, -⟩, -⟩
    omega
  · rename_i hx
    split
    · rename_i hoverflow
      refine iff_of_false (by intro h; cases h) ?_
      rintro ⟨⟨-, hy, -⟩, -⟩
      omega
    · rename_i hy
      have hx' : region.x.toNat + region.w.toNat < 2 ^ 32 := by omega
      have hy' : region.y.toNat + region.h.toNat < 2 ^ 32 := by omega
      split
      · rename_i houtside
        refine iff_of_false (by intro h; cases h) ?_
        rintro ⟨⟨⟨-, hfits⟩, -, hfits'⟩, -⟩
        rcases houtside with hwide | hhigh
        · exact absurd hfits (UInt32.not_le.mpr hwide)
        · exact absurd hfits' (UInt32.not_le.mpr hhigh)
      · rename_i hinside
        obtain ⟨hwide, hhigh⟩ := not_or.mp hinside
        constructor
        · intro h
          exact ⟨⟨⟨hx', UInt32.not_lt.mp hwide⟩, hy', UInt32.not_lt.mp hhigh⟩, Except.ok.inj h⟩
        · rintro ⟨-, rfl⟩
          rfl

variable {α : Type} (pixel : ι → Nat → Nat → α)

/-- What the library's `crop_imm` does with a region inside of the image: `pixel` is the
colour at a column and a row. -/
def CropsExactly : Prop :=
  ∀ image region,
    region.x.toNat + region.w.toNat ≤ (lib.dimensions image).1.toNat →
    region.y.toNat + region.h.toNat ≤ (lib.dimensions image).2.toNat →
    lib.dimensions (lib.cropImm image region) = (region.w, region.h) ∧
      ∀ i < region.w.toNat, ∀ j < region.h.toNat,
        pixel (lib.cropImm image region) i j =
          pixel image (region.x.toNat + i) (region.y.toNat + j)

variable {lib pixel}

/-- Cropping is exact from the region text on: for an image of less than `2 ^ 31` columns and
rows it succeeds exactly when the region lies inside of the image over the integers, and the
result is the region, pixel by pixel.  In every other case it is an error. -/
theorem crop_region_exact (hcrop : CropsExactly lib pixel) (image : ι)
    (hwidth : (lib.dimensions image).1.toNat < 2 ^ 31)
    (hheight : (lib.dimensions image).2.toNat < 2 ^ 31) (text : Text) (region : Region)
    (_hregion : Region.fromStr text = .ok region) :
    ((∃ cropped, cropImage lib image region.toCaptureRegion = .ok cropped) ↔
      0 ≤ region.x.toInt ∧ 0 ≤ region.y.toInt ∧
        region.x.toInt + region.w.toInt ≤ (lib.dimensions image).1.toNat ∧
        region.y.toInt + region.h.toInt ≤ (lib.dimensions image).2.toNat) ∧
      ∀ cropped, cropImage lib image region.toCaptureRegion = .ok cropped →
        ((lib.dimensions cropped).1.toNat : Int) = region.w.toInt ∧
          ((lib.dimensions cropped).2.toNat : Int) = region.h.toInt ∧
          ∀ i j : Nat, (i : Int) < region.w.toInt → (j : Int) < region.h.toInt →
            pixel cropped i j =
              pixel image (region.x.toInt + i).toNat (region.y.toInt + j).toNat := by
  have hx : SideFits region.x.toUInt32 region.w.toUInt32 (lib.dimensions image).1 ↔ _ :=
    sideFits_iff region.w_pos hwidth
  have hy : SideFits region.y.toUInt32 region.h.toUInt32 (lib.dimensions image).2 ↔ _ :=
    sideFits_iff region.h_pos hheight
  have hok := fun cropped => cropImage_ok_iff lib image cropped region.toCaptureRegion
  simp only [Region.toCaptureRegion, hx, hy] at hok
  constructor
  · constructor
    · rintro ⟨cropped, h⟩
      obtain ⟨⟨⟨hx0, hxw⟩, hy0, hyh⟩, -⟩ := (hok cropped).mp h
      exact ⟨hx0, hy0, hxw, hyh⟩
    · rintro ⟨hx0, hy0, hxw, hyh⟩
      exact ⟨_, (hok _).mpr ⟨⟨⟨hx0, hxw⟩, hy0, hyh⟩, rfl⟩⟩
  · intro cropped h
    obtain ⟨⟨⟨hx0, hxw⟩, hy0, hyh⟩, rfl⟩ := (hok cropped).mp h
    have hw0 : 0 ≤ region.w.toInt := (Int32.lt_iff_toInt_lt.mp region.w_pos).le
    have hh0 : 0 ≤ region.h.toInt := (Int32.lt_iff_toInt_lt.mp region.h_pos).le
    -- none of the four numbers is changed by its cast
    have hcast (n : Int32) (hn : 0 ≤ n.toInt) : (n.toUInt32.toNat : Int) = n.toInt := by
      rw [toNat_toUInt32, if_pos hn]
    have hxc := hcast region.x hx0
    have hyc := hcast region.y hy0
    have hwc := hcast region.w hw0
    have hhc := hcast region.h hh0
    obtain ⟨hdim, hpixel⟩ := hcrop image region.toCaptureRegion
      (by simp only [Region.toCaptureRegion]; omega) (by simp only [Region.toCaptureRegion]; omega)
    simp only [Region.toCaptureRegion] at hdim hpixel
    rw [hdim]
    refine ⟨hwc, hhc, ?_⟩
    intro i j hi hj
    rw [hpixel i (by omega) j (by omega), ← hxc, ← hyc]
    rfl

end Cropping

/-! ## An image library -/

/-- An image as its extent and its pixels. -/
structure Raster (α : Type) where
  width : UInt32
  height : UInt32
  pixel : Nat → Nat → α

/-- The image library on such images.  `crop_imm` cuts the region off at the edges of the
image; there is no file format. -/
def rasterLib (α : Type) : ImageLib (Raster α) where
  loadFromMemory _ := .error (.msg "The image format could not be determined".toList)
  dimensions image := (image.width, image.height)
  cropImm image region :=
    let x := min region.x image.width
    let y := min region.y image.height
    ⟨min region.w (image.width - x), min region.h (image.height - y),
      fun i j => image.pixel (x.toNat + i) (y.toNat + j)⟩
  writeJpeg _ _ := .error (.msg "The image format is not supported".toList)
  writePng _ := .error (.msg "The image format is not supported".toList)

theorem rasterLib_cropsExactly (α : Type) : CropsExactly (rasterLib α) Raster.pixel := by
  intro image region hwidth hheight
  simp only [rasterLib] at hwidth hheight ⊢
  have hmin (a b : UInt32) (h : a.toNat ≤ b.toNat) : min a b = a :=
    if_pos (UInt32.le_iff_toNat_le.mpr h)
  have hsub (a b : UInt32) (h : b.toNat ≤ a.toNat) : (a - b).toNat = a.toNat - b.toNat :=
    UInt32.toNat_sub_of_le a b (UInt32.le_iff_toNat_le.mpr h)
  have hx : min region.x image.width = region.x := hmin _ _ (by omega)
  have hy : min region.y image.height = region.y := hmin _ _ (by omega)
  have hw : min region.w (image.width - region.x) = region.w := by
    apply hmin
    rw [hsub _ _ (by omega)]
    omega
  have hh : min region.h (image.height - region.y) = region.h := by
    apply hmin
    rw [hsub _ _ (by omega)]
    omega
  rw [hx, hy, hw, hh]
  exact ⟨rfl, fun _ _ _ _ => rfl⟩

/-- An image of four columns and three rows, each pixel its own column and row. -/
def sampleRaster : Raster (Nat × Nat) := ⟨4, 3, fun i j => (i, j)⟩

/-- The region of two pixels in the second row. -/
def sampleRegion : Region := ⟨1, 1, 2, 1, by decide, by decide⟩

/-- A region inside of the image is cropped out of it. -/
theorem crop_region_exact_inside :
    Region.fromStr "1,1,2,1".toList = .ok sampleRegion ∧
      ∃ cropped,
        cropImage (rasterLib (Nat × Nat)) sampleRaster sampleRegion.toCaptureRegion = .ok cropped ∧
          cropped.pixel 1 0 = (2, 1) := by
  have hregion : Region.fromStr "1,1,2,1".toList = .ok sampleRegion := by decide +kernel
  obtain ⟨hcropped, hpixels⟩ := crop_region_exact (rasterLib_cropsExactly (Nat × Nat))
    sampleRaster (by decide) (by decide) "1,1,2,1".toList sampleRegion hregion
  obtain ⟨cropped, hok⟩ := hcropped.mpr (by decide)
  obtain ⟨-, -, hpixel⟩ := hpixels cropped hok
  exact ⟨hregion, cropped, hok, hpixel 1 0 (by decide) (by decide)⟩

end RustdeskCli.Cli
