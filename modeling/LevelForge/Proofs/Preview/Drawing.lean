import Mathlib.Data.List.Induction
import LevelForge.Preview.Picture

/-!
# What a picture shows

A picture is drawn by marking the placements one after the other in a blank grid. Each mark replaces
the one before it at the same cell, so the last placement at a cell is the one that is seen there,
and placements that are not on the picture leave no mark.

* `Picture.seen`: what is seen at a cell.
* `Picture.mark_scene`: a mark in the grid of what is seen gives the grid of what is seen then.
* `Picture.lines_eq`: the lines of a picture, cell by cell.
* `Picture.checkSize_eq_ok_iff`: the sizes of which a grid can be had.
* `Picture.draw_shows_last`: the picture of any placements in any size.
-/

namespace LevelForge

/-- Whether a placement stands at a column and a line. -/
def Placement.isAt (p : Placement) (x y : Nat) : Bool := p.x == x && p.y == y

/-- Whether a placement stands on a picture of a size. -/
def Placement.IsOn (p : Placement) (height width : Nat) : Prop :=
  0 ≤ p.x ∧ p.x < width ∧ 0 ≤ p.y ∧ p.y < height

/-- A placement is at the cell of its column and its line. -/
theorem Placement.isAt_iff {p : Placement} {x y : Nat} :
    p.isAt x y = true ↔ p.x = x ∧ p.y = y := by
  simp [isAt]

namespace Preview.Picture

/-! ## Cells -/

/-- What is seen at a column and a line: the glyph of the last placement there, or a full stop if
there is none. -/
def seen (placements : List Placement) (x y : Nat) : Char :=
  match (placements.filter (·.isAt x y)).getLast? with
  | some p => glyph p.symbol
  | none => '.'

/-- Without placements nothing is seen. -/
theorem seen_nil (x y : Nat) : seen [] x y = '.' := rfl

/-- Of several placements at one place the last one is seen. -/
theorem seen_concat (placements : List Placement) (p : Placement) (x y : Nat) :
    seen (placements ++ [p]) x y =
      if p.isAt x y then glyph p.symbol else seen placements x y := by
  rw [seen, seen, List.filter_append]
  by_cases h : p.isAt x y = true
  · simp [h]
  · simp [h]

/-- What is marked later is seen alike over what was seen alike. -/
theorem seen_append_congr {front front' : List Placement} {x y : Nat}
    (h : seen front x y = seen front' x y) (back : List Placement) :
    seen (front ++ back) x y = seen (front' ++ back) x y := by
  induction back using List.reverseRecOn with
  | nil => simpa using h
  | append_singleton back p ih =>
    rw [← List.append_assoc, ← List.append_assoc, seen_concat, seen_concat, ih]

/-! ## The grid -/

/-- The grid in which every cell is what is seen there. -/
def scene (placements : List Placement) (height width : Nat) : Array (Array Char) :=
  Array.ofFn fun y : Fin height => Array.ofFn fun x : Fin width => seen placements x y

/-- A blank grid is the grid of no placements. -/
theorem blank_eq_scene (height width : Nat) : blank height width = scene [] height width := by
  rw [blank, scene]
  congr 1
  funext y
  apply Array.ext
  · simp
  · simp [seen_nil]

/-- A change of one element of an array that is given by a function. -/
theorem modify_ofFn {α : Type} {n : Nat} (f : Fin n → α) (i : Nat) (change : α → α) :
    (Array.ofFn f).modify i change = Array.ofFn fun k => if i = k then change (f k) else f k := by
  apply Array.ext
  · simp
  · intro k _ _
    simp [Array.getElem_modify]

/-- A new element of an array that is given by a function. -/
theorem setIfInBounds_ofFn {α : Type} {n : Nat} (f : Fin n → α) (i : Nat) (a : α) :
    (Array.ofFn f).setIfInBounds i a = Array.ofFn fun k => if i = k then a else f k := by
  apply Array.ext
  · simp
  · intro k hk _
    rw [Array.getElem_setIfInBounds (by simpa using hk)]
    simp

/-- A placement that is off the picture is at none of its cells. -/
theorem isAt_eq_false {p : Placement} {height width : Nat} (h : ¬ p.IsOn height width) {x y : Nat}
    (hx : x < width) (hy : y < height) : p.isAt x y = false := by
  rw [← Bool.not_eq_true, Placement.isAt_iff]
  rintro ⟨hpx, hpy⟩
  exact h ⟨by omega, by omega, by omega, by omega⟩

/-- A placement that is marked in the grid of those before it is seen where it is. -/
theorem mark_scene (placements : List Placement) (height width : Nat) (p : Placement) :
    mark height width (scene placements height width) p =
      scene (placements ++ [p]) height width := by
  rw [mark]
  split
  · next hon =>
    rw [scene, modify_ofFn, scene]
    congr 1
    funext y
    split
    · next hline =>
      rw [setIfInBounds_ofFn]
      congr 1
      funext x
      have hat : p.isAt x y = true ↔ p.x.toNat = x := by
        rw [Placement.isAt_iff]
        omega
      rw [seen_concat, if_congr hat rfl rfl]
    · next hline =>
      congr 1
      funext x
      have hat : ¬ p.isAt x y = true := by
        rw [Placement.isAt_iff]
        omega
      rw [seen_concat, if_neg hat]
  · next hoff =>
    rw [scene, scene]
    congr 1
    funext y
    congr 1
    funext x
    rw [seen_concat, isAt_eq_false hoff x.isLt y.isLt]
    rfl

/-- The grid of a picture shows what is seen at each cell. -/
theorem grid_eq_scene (placements : List Placement) (height width : Nat) :
    grid placements height width = scene placements height width := by
  rw [grid, blank_eq_scene]
  induction placements using List.reverseRecOn with
  | nil => rfl
  | append_singleton placements p ih =>
    rw [List.foldl_append, ih, List.foldl_cons, List.foldl_nil, mark_scene]

/-- The lines of a picture, cell by cell. -/
theorem lines_eq (placements : List Placement) (height width : Nat) :
    lines placements height width = (List.range height).map fun y =>
      String.ofList ((List.range width).map fun x => seen placements x y) := by
  rw [lines, grid_eq_scene]
  apply List.ext_getElem
  · simp [scene]
  intro y _ _
  simp only [scene, List.getElem_map, Array.getElem_toList, Array.getElem_ofFn, List.getElem_range]
  congr 1
  apply List.ext_getElem
  · simp
  intro x _ _
  simp

/-- A picture has as many lines as it is high. -/
theorem length_lines (placements : List Placement) (height width : Nat) :
    (lines placements height width).length = height := by
  simp [lines_eq]

/-- The lines of a picture are as long as it is wide. -/
theorem length_of_mem_lines {placements : List Placement} {height width : Nat} {line : String}
    (h : line ∈ lines placements height width) : line.length = width := by
  rw [lines_eq] at h
  obtain ⟨y, -, rfl⟩ := List.mem_map.mp h
  simp

/-- A cell of a picture shows what is seen there. -/
theorem getElem?_lines (placements : List Placement) {height width x y : Nat} (hx : x < width)
    (hy : y < height) :
    ((lines placements height width)[y]?.bind (·.toList[x]?)) = some (seen placements x y) := by
  simp [lines_eq, hx, hy]

/-- Pictures that are seen alike have the same lines. -/
theorem lines_congr {placements others : List Placement} {height width : Nat}
    (h : ∀ x y, x < width → y < height → seen placements x y = seen others x y) :
    lines placements height width = lines others height width := by
  rw [lines_eq, lines_eq]
  refine List.map_congr_left fun y hy => congrArg String.ofList (List.map_congr_left fun x hx => ?_)
  exact h x y (List.mem_range.mp hx) (List.mem_range.mp hy)

/-- A narrower picture is the picture with its lines cut. -/
theorem lines_of_le (placements : List Placement) (height : Nat) {narrow width : Nat}
    (h : narrow ≤ width) :
    lines placements height narrow = (lines placements height width).map fun line =>
      String.ofList (line.toList.take narrow) := by
  rw [lines_eq, lines_eq, List.map_map]
  refine List.map_congr_left fun y _ => congrArg String.ofList ?_
  rw [String.toList_ofList, ← List.map_take, List.take_range, Nat.min_eq_left h]

/-! ## The text of a picture -/

/-- No glyph ends a line. -/
theorem glyph_ne_newline (symbol : String) : glyph symbol ≠ '\n' := by
  have hall : ∀ entry ∈ glyphs, entry.2 ≠ '\n' := by decide
  rw [glyph]
  cases hlookup : glyphs.lookup symbol with
  | none => decide
  | some c =>
    obtain ⟨front, back, hglyphs, -⟩ := List.lookup_eq_some_iff.mp hlookup
    exact hall (symbol, c) (by rw [hglyphs]; simp)

/-- Nothing that is seen ends a line. -/
theorem seen_ne_newline (placements : List Placement) (x y : Nat) :
    seen placements x y ≠ '\n' := by
  rw [seen]
  split
  · exact glyph_ne_newline _
  · decide

/-- A picture as a text has the lines of the picture. -/
theorem split_intercalate_lines {height : Nat} (hpos : 1 ≤ height) (width : Nat)
    (placements : List Placement) :
    (("\n".intercalate (lines placements height width)).split '\n').toList.map (·.copy) =
      lines placements height width := by
  have hne : lines placements height width ≠ [] := by
    rw [lines_eq, Ne, List.map_eq_nil_iff, List.range_eq_nil]
    omega
  have hlines : ∀ line ∈ lines placements height width, '\n' ∉ line.toList := by
    rw [lines_eq]
    intro line hline hmem
    obtain ⟨y, -, rfl⟩ := List.mem_map.mp hline
    rw [String.toList_ofList] at hmem
    obtain ⟨x, -, hx⟩ := List.mem_map.mp hmem
    exact seen_ne_newline placements x y hx
  have hsplit := String.toList_split_intercalate hlines
  rwa [if_neg hne] at hsplit

/-- Whether a grid of a size can be had where so many bytes of memory are left: a column of it and
all of it are no larger than a word can say, and all of it fits into memory. -/
structure Fits (memory height width : Nat) : Prop where
  column : cellBytes * height ≤ Word64.largest
  whole : cellBytes * height * width ≤ Word64.largest
  memory : cellBytes * height * width ≤ memory

theorem bind_eq_ok_iff {ε α β : Type} {x : Except ε α} {f : α → Except ε β} {b : β} :
    x >>= f = .ok b ↔ ∃ a, x = .ok a ∧ f a = .ok b := by
  cases x <;> simp [bind, Except.bind]

/-- A side that can be counted multiplies the bytes, unless it is zero. -/
theorem extend_eq_ok_iff {bytes side total : Nat} : extend bytes side = .ok total ↔
    if side = 0 then total = bytes
    else bytes * side ≤ Word64.largest ∧ total = bytes * side := by
  have hsign : ¬ (side : Int) < 0 := by omega
  rw [extend, if_neg hsign, Int.toNat_natCast]
  by_cases hside : side = 0
  · simp [hside, eq_comm]
  · by_cases hlarge : Word64.largest < bytes * side
    · simp [hside, hlarge, Nat.not_le.mpr hlarge]
    · simp [hside, hlarge, Nat.not_lt.mp hlarge, eq_comm]

/-- A size passes if its sides are words, a column and then the whole can be counted, and the whole
fits into memory. -/
theorem checkSize_eq_ok_iff_extend {memory : Nat} {height width : Int} :
    checkSize memory height width = .ok () ↔
      (Word64.fits height && Word64.fits width) = true ∧
        ∃ column, extend cellBytes height = .ok column ∧ ∃ total, extend column width = .ok total ∧
          ¬ (height ≠ 0 ∧ width ≠ 0 ∧ memory < total) := by
  have hpasses (P : Prop) [Decidable P] (fault : SizeFault) :
      (if P then throw fault else pure () : Except SizeFault Unit) = .ok () ↔ ¬ P := by
    by_cases h : P
    · rw [if_pos h]
      exact ⟨nofun, absurd h⟩
    · rw [if_neg h]
      exact ⟨fun _ => h, fun _ => rfl⟩
  rw [checkSize]
  by_cases hwords : (Word64.fits height && Word64.fits width) = true
  · rw [if_pos hwords]
    simp only [bind_eq_ok_iff, hpasses, hwords, true_and]
  · rw [if_neg hwords]
    exact ⟨nofun, fun h => absurd h.1 hwords⟩

/-- There is a picture of a size exactly if a grid of that size can be had. -/
theorem checkSize_eq_ok_iff {height : Nat} (hpos : 1 ≤ height) (width memory : Nat) :
    checkSize memory height width = .ok () ↔ Fits memory height width := by
  have hheight : height ≠ 0 := by omega
  have hside : height ≤ cellBytes * height := Nat.le_mul_of_pos_left _ (by decide)
  rw [checkSize_eq_ok_iff_extend, Word64.fits_natCast, Word64.fits_natCast]
  simp only [extend_eq_ok_iff, if_neg hheight, Bool.and_eq_true, decide_eq_true_eq]
  by_cases hwidth : width = 0
  · subst hwidth
    constructor
    · rintro ⟨-, _, ⟨hcolumn, rfl⟩, -⟩
      exact ⟨hcolumn, Nat.zero_le _, Nat.zero_le _⟩
    · rintro ⟨hcolumn, -, -⟩
      exact ⟨⟨Nat.le_trans hside hcolumn, Nat.zero_le _⟩, _, ⟨hcolumn, rfl⟩, by simp⟩
  · have hwide : width ≤ cellBytes * height * width := Nat.le_mul_of_pos_left _ (by omega)
    simp only [if_neg hwidth]
    constructor
    · rintro ⟨-, _, ⟨hcolumn, rfl⟩, _, ⟨hcounted, rfl⟩, hfree⟩
      exact ⟨hcolumn, hcounted, by simpa [hheight, hwidth] using hfree⟩
    · rintro ⟨hcolumn, hcounted, hfree⟩
      exact ⟨⟨Nat.le_trans hside hcolumn, Nat.le_trans hwide hcounted⟩, _, ⟨hcolumn, rfl⟩, _,
        ⟨hcounted, rfl⟩, fun hlarge => Nat.not_lt.mpr hfree hlarge.2.2⟩

/-- What is drawn is the text of the lines, unless the size is refused. -/
theorem draw_eq (placements : List Placement) (memory height width : Nat) :
    draw memory placements height width = (checkSize memory height width).map fun _ =>
      "\n".intercalate (lines placements height width) := by
  rw [draw]
  cases checkSize memory height width <;> rfl

/-! ## What is seen -/

/-- Two placements at different cells may change places. -/
theorem seen_swap {p q : Placement} (h : ¬ (p.x = q.x ∧ p.y = q.y)) (front back : List Placement)
    (x y : Nat) : seen (front ++ p :: q :: back) x y = seen (front ++ q :: p :: back) x y := by
  have happart : ¬ (p.isAt x y = true ∧ q.isAt x y = true) := by
    rw [Placement.isAt_iff, Placement.isAt_iff]
    rintro ⟨⟨hpx, hpy⟩, hqx, hqy⟩
    exact h ⟨hpx.trans hqx.symm, hpy.trans hqy.symm⟩
  have hfront : seen ((front ++ [p]) ++ [q]) x y = seen ((front ++ [q]) ++ [p]) x y := by
    simp only [seen_concat]
    by_cases hp : p.isAt x y = true
    · have hq : ¬ q.isAt x y = true := fun hq => happart ⟨hp, hq⟩
      simp [hp, hq]
    · simp [hp]
  simpa using seen_append_congr hfront back

/-- A placement that is not at a cell is not seen there. -/
theorem seen_of_isAt_eq_false {p : Placement} {x y : Nat} (h : p.isAt x y = false)
    (front back : List Placement) :
    seen (front ++ p :: back) x y = seen (front ++ back) x y := by
  have hfront : seen (front ++ [p]) x y = seen front x y := by
    rw [seen_concat, h]
    rfl
  simpa using seen_append_congr hfront back

/-- A picture is faithful. It has as many lines as it is high, each as long as it is wide, and each
cell shows the glyph of the last placement there, or a full stop if there is none. What is drawn is
the text of these lines, whenever a grid of the size can be had in the memory that is left, and
nothing otherwise. Placements at different cells may change places, and placements that are not on
the picture may come and go. A narrower picture is the picture with its lines cut. -/
theorem draw_shows_last {height : Nat} (hpos : 1 ≤ height) (width : Nat)
    (placements : List Placement) :
    let picture := lines placements height width
    (picture.length = height ∧ (∀ line ∈ picture, line.length = width) ∧
      ∀ x y, x < width → y < height →
        (picture[y]?.bind (·.toList[x]?)) = some (seen placements x y)) ∧
    (∀ memory, Fits memory height width → ∃ text, draw memory placements height width = .ok text ∧
      (text.split '\n').toList.map (·.copy) = picture) ∧
    (∀ memory, ¬ Fits memory height width →
      ∃ fault, draw memory placements height width = .error fault) ∧
    (∀ front p q back, placements = front ++ p :: q :: back → ¬ (p.x = q.x ∧ p.y = q.y) →
      lines (front ++ q :: p :: back) height width = picture) ∧
    (∀ front p back, placements = front ++ p :: back → ¬ p.IsOn height width →
      lines (front ++ back) height width = picture) ∧
    ∀ narrow ≤ width, lines placements height narrow =
      picture.map fun line => String.ofList (line.toList.take narrow) := by
  intro picture
  refine ⟨⟨length_lines .., fun _ => length_of_mem_lines, fun _ _ => getElem?_lines placements⟩,
    fun memory hfits => ?_, fun memory hfits => ?_, ?_, ?_,
    fun _ => lines_of_le placements height⟩
  · refine ⟨_, ?_, split_intercalate_lines hpos width placements⟩
    rw [draw_eq, (checkSize_eq_ok_iff hpos width memory).mpr hfits]
    rfl
  · have hrefused := mt (checkSize_eq_ok_iff hpos width memory).mp hfits
    cases hsize : checkSize memory height width with
    | ok => exact absurd hsize hrefused
    | error fault => exact ⟨fault, by rw [draw_eq, hsize]; rfl⟩
  · rintro front p q back rfl h
    exact lines_congr fun x y _ _ => (seen_swap h front back x y).symm
  · rintro front p back rfl hoff
    exact lines_congr fun x y hx hy => (seen_of_isAt_eq_false (isAt_eq_false hoff hx hy) _ _).symm

/-- Two placements at one cell, one with a symbol that is not known and one above the picture. -/
def corner : List Placement :=
  [⟨"Inanimate", 0, 1, []⟩, ⟨"Life", 0, 1, []⟩, ⟨"Fern", 2, 0, []⟩, ⟨"Rocket", 1, -1, []⟩]

/-- Of two placements in the corner the later is seen, and the one above the picture is not. -/
theorem draw_shows_last_corner :
    (∃ text, draw 1024 corner 2 3 = .ok text ∧
      (text.split '\n').toList.map (·.copy) = ["..?", "+.."]) ∧
    lines (corner.take 3) 2 3 = ["..?", "+.."] ∧
    lines (corner.take 1 ++ corner[2] :: corner[1] :: corner.drop 3) 2 3 = ["..?", "+.."] ∧
    lines corner 2 1 = [".", "+"] := by
  obtain ⟨-, hdrawn, -, hswap, hoff, hcut⟩ := draw_shows_last (show 1 ≤ 2 by decide) 3 corner
  have hlines : lines corner 2 3 = ["..?", "+.."] := by decide +kernel
  rw [hlines] at hdrawn hswap hoff hcut
  refine ⟨hdrawn 1024 ⟨by decide, by decide, by decide⟩, ?_, ?_, ?_⟩
  · exact hoff (corner.take 3) corner[3] [] rfl (by rw [Placement.IsOn]; decide)
  · exact hswap (corner.take 1) corner[1] corner[2] (corner.drop 3) rfl (by decide)
  · exact hcut 1 (by decide)

end Preview.Picture

end LevelForge
