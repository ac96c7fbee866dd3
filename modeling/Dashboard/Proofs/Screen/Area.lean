import Dashboard.Screen.Area

/-!
# Areas that are divided

Columns meet at boundaries, and a boundary is a rounded fraction of the width.
Whatever the rounding does, two neighbours share their boundary, so nothing is
lost between them and nothing is in both. What rounding decides is only how
wide a column is, and there a boundary is at most half a cell away from its
exact place (`roundHalfUp_near`), so that no two columns are more than one cell
apart and the middle of an area misses its percentage by one cell at most.
-/

namespace Dashboard.Screen

/-- The rounded number is the only one whose exact place is less than half a
cell below the quotient, or at most half a cell above it. -/
theorem roundHalfUp_near (num : Nat) {den : Nat} (h : 0 < den) :
    2 * (den * roundHalfUp num den) ≤ 2 * num + den ∧
      2 * num < 2 * (den * roundHalfUp num den) + den := by
  have hdiv : 2 * den * roundHalfUp num den + (2 * num + den) % (2 * den) = 2 * num + den :=
    Nat.div_add_mod _ _
  have hmod : (2 * num + den) % (2 * den) < 2 * den := Nat.mod_lt _ (by omega)
  rw [Nat.mul_assoc] at hdiv
  omega

theorem roundHalfUp_mono {m n : Nat} (h : m ≤ n) (den : Nat) :
    roundHalfUp m den ≤ roundHalfUp n den :=
  Nat.div_le_div_right (by omega)

theorem roundHalfUp_mul (n : Nat) {den : Nat} (h : 0 < den) : roundHalfUp (den * n) den = n := by
  have hnum : 2 * (den * n) + den = den + 2 * den * n := by rw [Nat.mul_assoc, Nat.add_comm]
  rw [roundHalfUp, hnum, Nat.add_mul_div_left _ _ (by omega), Nat.div_eq_of_lt (by omega),
    Nat.zero_add]

namespace Area

variable {a b c : Area} {areas : List Area} {left right n i x : Nat}

/-! ## Columns -/

/-- Rectangles side by side from one column to another, each beginning where
the one before it ends. -/
inductive Tiles : Nat → Nat → List Area → Prop
  | nil (x : Nat) : Tiles x x []
  | cons (a : Area) {right : Nat} {areas : List Area} (h : Tiles (a.x + a.width) right areas) :
      Tiles a.x right (a :: areas)

/-- A column of cells is in a rectangle. -/
def Holds (a : Area) (x : Nat) : Prop := a.x ≤ x ∧ x < a.x + a.width

/-- Of some rectangles exactly one has a column of cells. -/
def HeldOnce (areas : List Area) (x : Nat) : Prop :=
  ∃ (i : Nat) (b : Area), areas[i]? = some b ∧ b.Holds x ∧
    ∀ (j : Nat) (c : Area), areas[j]? = some c → c.Holds x → j = i

theorem Tiles.le (h : Tiles left right areas) : left ≤ right := by
  induction h with
  | nil => exact Nat.le_refl _
  | cons a _ ih => omega

theorem Tiles.within (h : Tiles left right areas) (hb : b ∈ areas) :
    left ≤ b.x ∧ b.x + b.width ≤ right := by
  induction h with
  | nil => cases hb
  | cons a htail ih =>
      have hle := htail.le
      rcases List.mem_cons.mp hb with rfl | hb
      · exact ⟨Nat.le_refl _, hle⟩
      · have hrest := ih hb
        omega

theorem Tiles.heldOnce (h : Tiles left right areas) (hleft : left ≤ x) (hright : x < right) :
    HeldOnce areas x := by
  induction h with
  | nil => omega
  | @cons a right areas htail ih =>
      by_cases hlt : x < a.x + a.width
      · refine ⟨0, a, rfl, ⟨hleft, hlt⟩, fun j c hc hin => ?_⟩
        cases j with
        | zero => rfl
        | succ j =>
            have hle := (htail.within (List.mem_of_getElem? hc)).1
            have hge := hin.1
            omega
      · obtain ⟨i, b, hb, hin, huniq⟩ := ih (by omega) hright
        refine ⟨i + 1, b, hb, hin, fun j c hc hin => ?_⟩
        cases j with
        | zero =>
            obtain rfl := Option.some.inj hc
            exact absurd hin.2 hlt
        | succ j => rw [huniq j c hc hin]

/-- The rectangles have the columns of cells between their ends, each once,
and no others. -/
theorem Tiles.heldOnce_iff (h : Tiles left right areas) :
    HeldOnce areas x ↔ left ≤ x ∧ x < right := by
  constructor
  · rintro ⟨i, b, hb, hin, -⟩
    obtain ⟨hleft, hright⟩ := h.within (List.mem_of_getElem? hb)
    exact ⟨Nat.le_trans hleft hin.1, Nat.lt_of_lt_of_le hin.2 hright⟩
  · rintro ⟨hleft, hright⟩
    exact h.heldOnce hleft hright

theorem boundary_zero (a : Area) (h : 0 < n) : a.boundary n 0 = a.x := by
  have hzero := roundHalfUp_mul 0 h
  rw [Nat.mul_zero] at hzero
  rw [boundary, Nat.zero_mul, hzero, Nat.add_zero]

theorem boundary_last (a : Area) (h : 0 < n) : a.boundary n n = a.x + a.width := by
  rw [boundary, roundHalfUp_mul a.width h]

theorem boundary_le_succ (a : Area) (n i : Nat) : a.boundary n i ≤ a.boundary n (i + 1) :=
  Nat.add_le_add_left (roundHalfUp_mono (Nat.mul_le_mul_right _ (Nat.le_succ i)) n) _

/-- The column between two boundaries. -/
def column (a : Area) (n i : Nat) : Area :=
  ⟨a.boundary n i, a.y, a.boundary n (i + 1) - a.boundary n i, a.height⟩

theorem columns_eq (a : Area) (n : Nat) :
    a.columns n = (List.range (max n 1)).map (a.column (max n 1)) := rfl

theorem column_end (a : Area) (n i : Nat) :
    (a.column n i).x + (a.column n i).width = a.boundary n (i + 1) :=
  Nat.add_sub_of_le (a.boundary_le_succ n i)

/-- Columns from one boundary on tile what lies up to the boundary after the
last of them. -/
theorem tiles_columns (a : Area) (n count start : Nat) :
    Tiles (a.boundary n start) (a.boundary n (start + count))
      ((List.range' start count).map (a.column n)) := by
  induction count generalizing start with
  | zero => exact Tiles.nil _
  | succ count ih =>
      rw [List.range'_succ, List.map_cons]
      refine Tiles.cons (a.column n start) ?_
      rw [column_end, Nat.add_comm count 1, ← Nat.add_assoc]
      exact ih (start + 1)

/-- Both ends of a column are near their exact places, so its width is less
than a cell away from the exact one. -/
theorem column_near (a : Area) (h : 0 < n) (i : Nat) :
    n * (a.column n i).width < a.width + n ∧ a.width < n * (a.column n i).width + n := by
  obtain ⟨hlow, hlow'⟩ := roundHalfUp_near (i * a.width) h
  obtain ⟨hhigh, hhigh'⟩ := roundHalfUp_near ((i + 1) * a.width) h
  have hend : n * roundHalfUp ((i + 1) * a.width) n =
      n * roundHalfUp (i * a.width) n + n * (a.column n i).width := by
    have hsum := column_end a n i
    rw [← Nat.mul_add]
    congr 1
    simp only [column, boundary] at hsum ⊢
    omega
  have hstep : (i + 1) * a.width = i * a.width + a.width := Nat.succ_mul i a.width
  omega

theorem column_width_le (a : Area) (h : 0 < n) (i j : Nat) :
    (a.column n i).width ≤ (a.column n j).width + 1 := by
  have hi := (a.column_near h i).1
  have hj := (a.column_near h j).2
  have hlt : n * (a.column n i).width < n * ((a.column n j).width + 2) := by
    rw [Nat.mul_add]
    omega
  exact Nat.le_of_lt_succ (Nat.lt_of_mul_lt_mul_left hlt)

/-- An area divided into columns. -/
structure Divided (a : Area) (n : Nat) (areas : List Area) : Prop where
  length : areas.length = max n 1
  rows : ∀ b ∈ areas, b.y = a.y ∧ b.height = a.height
  tiles : Tiles a.x (a.x + a.width) areas
  single : ∀ x, HeldOnce areas x ↔ a.Holds x
  even : ∀ b ∈ areas, ∀ c ∈ areas, b.width ≤ c.width + 1

theorem divided_columns (a : Area) (n : Nat) : a.Divided n (a.columns n) := by
  have hpos : 0 < max n 1 := by omega
  have hmem : ∀ b ∈ a.columns n, ∃ i, b = a.column (max n 1) i := by
    intro b hb
    rw [columns_eq] at hb
    obtain ⟨i, -, rfl⟩ := List.mem_map.mp hb
    exact ⟨i, rfl⟩
  have htiles : Tiles a.x (a.x + a.width) (a.columns n) := by
    have h := a.tiles_columns (max n 1) (max n 1) 0
    rw [boundary_zero a hpos, Nat.zero_add, boundary_last a hpos] at h
    rwa [columns_eq, List.range_eq_range']
  refine ⟨?_, fun b hb => ?_, htiles, fun x => htiles.heldOnce_iff, fun b hb c hc => ?_⟩
  · rw [columns_eq, List.length_map, List.length_range]
  · obtain ⟨i, rfl⟩ := hmem b hb
    exact ⟨rfl, rfl⟩
  · obtain ⟨i, rfl⟩ := hmem b hb
    obtain ⟨j, rfl⟩ := hmem c hc
    exact a.column_width_le hpos i j

/-! ## The middle -/

/-- A rectangle lies inside an area. -/
structure Inside (a b : Area) : Prop where
  left : a.x ≤ b.x
  right : b.x + b.width ≤ a.x + a.width
  top : a.y ≤ b.y
  bottom : b.y + b.height ≤ a.y + a.height

/-- A length is a percentage of another one, to one cell. -/
def Share (percent whole part : Nat) : Prop :=
  100 * part ≤ percent * whole + 100 ∧ percent * whole ≤ 100 * part + 100

theorem middle_within (origin length : Nat) {percent : Nat} (h : percent ≤ 100) :
    origin ≤ (middle origin length percent).1 ∧
      (middle origin length percent).1 + (middle origin length percent).2 ≤ origin + length ∧
      Share percent length (middle origin length percent).2 := by
  obtain ⟨hfirst, hfirst'⟩ :=
    roundHalfUp_near (100 * origin + length * ((100 - percent) / 2)) (show 0 < 100 by decide)
  obtain ⟨hlast, hlast'⟩ :=
    roundHalfUp_near (100 * origin + length * ((100 - percent) / 2 + percent))
      (show 0 < 100 by decide)
  have hside : length * ((100 - percent) / 2 + percent) ≤ length * 100 :=
    Nat.mul_le_mul_left _ (by omega)
  have hsum : length * ((100 - percent) / 2 + percent) =
      length * ((100 - percent) / 2) + length * percent := Nat.mul_add _ _ _
  rw [Share, middle, Nat.mul_comm percent length]
  dsimp only
  omega

theorem inside_centered (a : Area) {percentX percentY : Nat} (hx : percentX ≤ 100)
    (hy : percentY ≤ 100) :
    a.Inside (a.centered percentX percentY) ∧
      Share percentX a.width (a.centered percentX percentY).width ∧
      Share percentY a.height (a.centered percentX percentY).height := by
  obtain ⟨hleft, hright, hwidth⟩ := middle_within a.x a.width hx
  obtain ⟨htop, hbottom, hheight⟩ := middle_within a.y a.height hy
  exact ⟨⟨hleft, hright, htop, hbottom⟩, hwidth, hheight⟩

/-- An area is divided into as many columns as are asked for, which tile it and
are as equal as whole cells can be; and the middle of an area lies inside it
and takes its percentages of it. -/
theorem areas_divided (a : Area) :
    (∀ n, a.Divided n (a.columns n)) ∧
      ∀ percentX percentY, percentX ≤ 100 → percentY ≤ 100 →
        a.Inside (a.centered percentX percentY) ∧
          Share percentX a.width (a.centered percentX percentY).width ∧
          Share percentY a.height (a.centered percentX percentY).height :=
  ⟨a.divided_columns, fun _ _ hx hy => a.inside_centered hx hy⟩

/-- Four columns of an area that is three cells wide, one of them empty, and
the middle of the same area. -/
theorem areas_divided_of_narrow :
    Divided ⟨3, 1, 3, 25⟩ 4 [⟨3, 1, 1, 25⟩, ⟨4, 1, 1, 25⟩, ⟨5, 1, 0, 25⟩, ⟨5, 1, 1, 25⟩] ∧
      33 ≤ 100 ∧ 21 ≤ 100 ∧ Inside ⟨3, 1, 3, 25⟩ ⟨4, 11, 1, 5⟩ ∧ Share 33 3 1 ∧ Share 21 25 5 :=
  have hx : 33 ≤ 100 := by decide
  have hy : 21 ≤ 100 := by decide
  ⟨(areas_divided ⟨3, 1, 3, 25⟩).1 4, hx, hy, (areas_divided ⟨3, 1, 3, 25⟩).2 33 21 hx hy⟩

end Area

end Dashboard.Screen
