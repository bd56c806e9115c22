import SceneDraw.Proofs.Call.Reading
import SceneDraw.Proofs.DisplayList.Machine

/-! A texture block and what it stands for: the image is set, and then the tile. The three commands
take the same texts, each in an order of its own. -/

namespace SceneDraw.DisplayList

structure BlockTexts where
  texture : String
  format : String
  size : String
  width : String
  height : String
  palette : String
  wrapS : String
  wrapT : String
  maskS : String
  maskT : String
  shiftS : String
  shiftT : String

namespace BlockTexts

variable (b : BlockTexts)

def block : Call :=
  .ofTexts "gsDPLoadTextureBlock" [b.texture, b.format, b.size, b.width, b.height, b.palette, b.wrapS,
    b.wrapT, b.maskS, b.maskT, b.shiftS, b.shiftT]

def block4 : Call :=
  .ofTexts "gsDPLoadTextureBlock_4b" [b.texture, b.format, b.width, b.height, b.palette, b.wrapS,
    b.wrapT, b.maskS, b.maskT, b.shiftS, b.shiftT]

def image : Call := .ofTexts "gsDPSetTextureImage" [b.format, b.size, b.width, b.texture]

/-- The tile stands first and at the begin of the memory, and its line is as wide as the image. -/
def tile : Call :=
  .ofTexts "gsDPSetTile" [b.format, b.size, b.width, "0", "0", b.palette, b.wrapT, b.maskT, b.shiftT,
    b.wrapS, b.maskS, b.shiftS]

lemma ofCall_image : ofCall b.image = (do
    b.image.expectArity 4
    return .textureImage (← imageFormat b.image 0) (← texelSize b.image 1) (← word b.image 2)
      (textureName (← b.image.arg 3))) := rfl

lemma ofCall_tile : ofCall b.tile = (do
    b.tile.expectArity 12
    return .tile
      { format := ← imageFormat b.tile 0
        size := ← texelSize b.tile 1
        line := ← word b.tile 2
        memory := ← word b.tile 3
        index := ← word b.tile 4
        palette := ← word b.tile 5
        wrapT := ← tileWrap b.tile 6
        maskT := ← word b.tile 7
        shiftT := ← word b.tile 8
        wrapS := ← tileWrap b.tile 9
        maskS := ← word b.tile 10
        shiftS := ← word b.tile 11 }) := rfl

lemma word_zero {c : Call} {i : Nat} (h : c.args[i]? = some (.parse "0")) : word c i = .ok 0 :=
  read_eq_ok_iff.2 ⟨_, h, by decide +kernel⟩

variable {b} {d : Command}

lemma expansion_of_block (h : ofCall b.block = .ok d) :
    ∃ (t : Tile) (height : UInt32), let texture := textureName (.parse b.texture)
      d = .textureBlock texture t.line height t ∧
      ofCall b.image = .ok (.textureImage t.format t.size t.line texture) ∧
      ofCall b.tile = .ok (.tile t) := by
  obtain ⟨⟨⟩, -, h⟩ := ok_of_bind h
  obtain ⟨size, hsize, h⟩ := ok_of_bind h
  obtain ⟨width, hwidth, h⟩ := ok_of_bind h
  obtain ⟨texture, htexture, h⟩ := ok_of_bind h
  obtain ⟨height, -, h⟩ := ok_of_bind h
  obtain ⟨format, hformat, h⟩ := ok_of_bind h
  obtain ⟨palette, hpalette, h⟩ := ok_of_bind h
  obtain ⟨wrapT, hwrapT, h⟩ := ok_of_bind h
  obtain ⟨maskT, hmaskT, h⟩ := ok_of_bind h
  obtain ⟨shiftT, hshiftT, h⟩ := ok_of_bind h
  obtain ⟨wrapS, hwrapS, h⟩ := ok_of_bind h
  obtain ⟨maskS, hmaskS, h⟩ := ok_of_bind h
  obtain ⟨shiftS, hshiftS, h⟩ := ok_of_bind h
  obtain rfl := Except.ok.inj h
  obtain rfl := Except.ok.inj htexture
  refine ⟨⟨format, size, width, 0, 0, palette, wrapT, maskT, shiftT, wrapS, maskS, shiftS⟩, height,
    rfl, ?_, ?_⟩
  · have image0 : imageFormat b.image 0 = .ok format := read_congr hformat rfl rfl
    have image1 : texelSize b.image 1 = .ok size := read_congr hsize rfl rfl
    have image2 : word b.image 2 = .ok width := read_congr hwidth rfl rfl
    rw [ofCall_image, image0, image1, image2]
    rfl
  · have tile0 : imageFormat b.tile 0 = .ok format := read_congr hformat rfl rfl
    have tile1 : texelSize b.tile 1 = .ok size := read_congr hsize rfl rfl
    have tile2 : word b.tile 2 = .ok width := read_congr hwidth rfl rfl
    have tile3 : word b.tile 3 = .ok 0 := word_zero rfl
    have tile4 : word b.tile 4 = .ok 0 := word_zero rfl
    have tile5 : word b.tile 5 = .ok palette := read_congr hpalette rfl rfl
    have tile6 : tileWrap b.tile 6 = .ok wrapT := read_congr hwrapT rfl rfl
    have tile7 : word b.tile 7 = .ok maskT := read_congr hmaskT rfl rfl
    have tile8 : word b.tile 8 = .ok shiftT := read_congr hshiftT rfl rfl
    have tile9 : tileWrap b.tile 9 = .ok wrapS := read_congr hwrapS rfl rfl
    have tile10 : word b.tile 10 = .ok maskS := read_congr hmaskS rfl rfl
    have tile11 : word b.tile 11 = .ok shiftS := read_congr hshiftS rfl rfl
    rw [ofCall_tile, tile0, tile1, tile2, tile3, tile4, tile5, tile6, tile7, tile8, tile9, tile10,
      tile11]
    rfl

lemma texelSize_of_four_bits {c : Call} {i : Nat} (h : c.args[i]? = some (.parse "G_IM_SIZ_4b")) :
    texelSize c i = .ok .bits4 :=
  read_eq_ok_iff.2 ⟨_, h, by decide +kernel⟩

lemma toOption_block4 (hb : b.size = "G_IM_SIZ_4b") :
    (ofCall b.block4).toOption = (ofCall b.block).toOption := by
  have hsize : texelSize b.block 2 = .ok .bits4 := texelSize_of_four_bits (hb ▸ rfl)
  have hblock : ofCall b.block = textureBlock b.block (some .bits4) := by
    change (b.block.expectArity 12 >>= fun _ => texelSize b.block 2 >>= _) = _
    rw [hsize]
    rfl
  have hblock4 : ofCall b.block4 = textureBlock b.block4 none := rfl
  rw [hblock, hblock4]
  simp only [textureBlock, toOption_bind, word, imageFormat, tileWrap, toOption_read]
  rfl

lemma step_textureBlock (s : Setting) (m : Machine) (list : String) (line line' : Nat) (t : Tile)
    (texture : String) (height : UInt32) :
    ∃ m', m.step s ⟨list, line, .textureBlock texture t.line height t⟩ = .ok m' ∧
      [⟨list, line, .textureImage t.format t.size t.line texture⟩, ⟨list, line', .tile t⟩].foldlM
        (Machine.step s) m = .ok m' := by
  refine ⟨_, rfl, ?_⟩
  change Except.ok { m with
    state := { m.state with texture := some texture, tile := some t }
    log := m.log ++ [] ++ [] } = _
  rw [List.append_nil (m.log ++ [])]

end BlockTexts

theorem textureBlock_expands (b : BlockTexts) :
    (∀ d, ofCall b.block = .ok d →
      ∃ image tile, ofCall b.image = .ok image ∧ ofCall b.tile = .ok tile ∧
        ∀ (s : Setting) (m : Machine) (list : String) (line line' : Nat), ∃ m',
          m.step s ⟨list, line, d⟩ = .ok m' ∧
          [⟨list, line, image⟩, ⟨list, line', tile⟩].foldlM (Machine.step s) m = .ok m') ∧
    ∀ d, ofCall b.block4 = .ok d ↔ ofCall { b with size := "G_IM_SIZ_4b" }.block = .ok d := by
  refine ⟨fun d hd => ?_, fun d => ?_⟩
  · obtain ⟨t, height, rfl, himage, htile⟩ := BlockTexts.expansion_of_block hd
    exact ⟨_, _, himage, htile, fun s m list line line' =>
      BlockTexts.step_textureBlock s m list line line' t _ height⟩
  · have h := BlockTexts.toOption_block4 (b := { b with size := "G_IM_SIZ_4b" }) rfl
    rw [← toOption_eq_some_iff, ← toOption_eq_some_iff, ← h]
    rfl

def bobTexts : BlockTexts where
  texture := "bob_texture_0800 + 0x800"
  format := "G_IM_FMT_IA"
  size := "G_IM_SIZ_8b"
  width := "32"
  height := "64"
  palette := "0"
  wrapS := "G_TX_CLAMP"
  wrapT := "G_TX_WRAP | G_TX_NOMIRROR"
  maskS := "5"
  maskT := "6"
  shiftS := "G_TX_NOLOD"
  shiftT := "1"

def bobTile : Tile := ⟨.ia, .bits8, 32, 0, 0, 0, ⟨false, false⟩, 6, 1, ⟨false, true⟩, 5, 0⟩

theorem textureBlock_expands_bob :
    ofCall bobTexts.block = .ok (.textureBlock "bob_texture_0800" 32 64 bobTile) ∧
      ∃ image tile, ofCall bobTexts.image = .ok image ∧ ofCall bobTexts.tile = .ok tile ∧
        ∀ (s : Setting) (m : Machine) (list : String) (line line' : Nat), ∃ m',
          m.step s ⟨list, line, .textureBlock "bob_texture_0800" 32 64 bobTile⟩ = .ok m' ∧
          [⟨list, line, image⟩, ⟨list, line', tile⟩].foldlM (Machine.step s) m = .ok m' := by
  have h : ofCall bobTexts.block = .ok (.textureBlock "bob_texture_0800" 32 64 bobTile) := by
    decide +kernel
  exact ⟨h, (textureBlock_expands bobTexts).1 _ h⟩

end SceneDraw.DisplayList
