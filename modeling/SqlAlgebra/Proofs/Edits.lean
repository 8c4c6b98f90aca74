import Mathlib.Order.Bounds.Defs
import SqlAlgebra.Text.EditDistance

/-!
# Edits and distances

An edit puts a character into a text, takes one out or replaces one, at any place. `Edits n a b`
says that `n` edits, one after the other, turn `a` into `b`, by way of any texts in between.

`distance` is the recurrence behind the edit distance: look at the first characters, and take
the cheapest of deleting the one, inserting the other, or going from the one to the other. It is
the least number of edits (`isLeast_distance`). No edits do with fewer, because one edit changes
the distance to any text by at most one (`distance_le_of_edit`), and as many do, because the
recurrence can be read as instructions (`edits_distance`).

`editDistance` evaluates the recurrence from the other end and row by row. The rows hold the
distances of what has been read so far, last character first (`distanceRows_eq`), so it is the
distance of the reversed texts. Edits do not mind the direction, and `isLeast_editDistance`
follows.
-/

namespace SqlAlgebra.Text

variable {a b c : List Char} {m n : Nat}

/-! ## Edits -/

/-- One character is inserted, deleted or replaced. -/
inductive Edit : List Char → List Char → Prop
  | insert (before after : List Char) (x : Char) : Edit (before ++ after) (before ++ x :: after)
  | delete (before after : List Char) (x : Char) : Edit (before ++ x :: after) (before ++ after)
  | replace (before after : List Char) (x y : Char) :
    Edit (before ++ x :: after) (before ++ y :: after)

/-- So many edits turn the first text into the second. -/
inductive Edits : Nat → List Char → List Char → Prop
  | none (a : List Char) : Edits 0 a a
  | more {n : Nat} {a b c : List Char} : Edit a b → Edits n b c → Edits (n + 1) a c

theorem Edit.cons (h : Edit a b) (x : Char) : Edit (x :: a) (x :: b) := by
  cases h with
  | insert before after y => exact .insert (x :: before) after y
  | delete before after y => exact .delete (x :: before) after y
  | replace before after y z => exact .replace (x :: before) after y z

theorem Edits.cons (h : Edits n a b) (x : Char) : Edits n (x :: a) (x :: b) := by
  induction h with
  | none a => exact .none _
  | more h _ ih => exact .more (h.cons x) ih

theorem Edit.reverse (h : Edit a b) : Edit a.reverse b.reverse := by
  cases h with
  | insert before after x => simpa using Edit.insert after.reverse before.reverse x
  | delete before after x => simpa using Edit.delete after.reverse before.reverse x
  | replace before after x y => simpa using Edit.replace after.reverse before.reverse x y

theorem Edits.reverse (h : Edits n a b) : Edits n a.reverse b.reverse := by
  induction h with
  | none a => exact .none _
  | more h _ ih => exact .more h.reverse ih

/-- Edits do not mind the direction in which texts are read. -/
theorem edits_reverse_iff : Edits n a.reverse b.reverse ↔ Edits n a b := by
  refine ⟨fun h => ?_, Edits.reverse⟩
  simpa using h.reverse

/-! ## The recurrence -/

/-- The cheapest way from one text to the other, by their first characters. -/
def distance : List Char → List Char → Nat
  | [], b => b.length
  | x :: a, [] => a.length + 1
  | x :: a, y :: b =>
    min (min (distance a (y :: b) + 1) (distance (x :: a) b + 1))
      (distance a b + if x = y then 0 else 1)
termination_by a b => a.length + b.length

@[simp] theorem distance_nil_left (b : List Char) : distance [] b = b.length := by
  rw [distance]

@[simp] theorem distance_nil_right (a : List Char) : distance a [] = a.length := by
  cases a <;> simp [distance]

/-- The distance of two texts comes from those of their tails, by the cheapest of a deletion, an
insertion, and a replacement or none. -/
theorem distance_cons_cons (x y : Char) (a b : List Char) : distance (x :: a) (y :: b) =
    min (min (distance a (y :: b) + 1) (distance (x :: a) b + 1))
      (distance a b + if x = y then 0 else 1) := by
  rw [distance]

/-- A text has no distance from itself. -/
theorem distance_self : ∀ a : List Char, distance a a = 0
  | [] => distance_nil_left []
  | x :: a => by
    rw [distance_cons_cons, distance_self a, if_pos rfl]
    exact Nat.min_zero _

/-! ### Upper bounds by the first characters -/

/-- A further character on the left costs one edit at most. -/
theorem distance_cons_left_le (x : Char) (a b : List Char) :
    distance (x :: a) b ≤ distance a b + 1 := by
  cases b with
  | nil => simp
  | cons y b =>
    rw [distance_cons_cons]
    omega

theorem distance_cons_right_le (y : Char) (a b : List Char) :
    distance a (y :: b) ≤ distance a b + 1 := by
  cases a with
  | nil => simp
  | cons x a =>
    rw [distance_cons_cons]
    omega

/-- A further character on both sides costs one edit at most. -/
theorem distance_cons_cons_le (x y : Char) (a b : List Char) :
    distance (x :: a) (y :: b) ≤ distance a b + 1 := by
  rw [distance_cons_cons]
  split <;> omega

/-! ### One edit more or less -/

/-- Taking a character away brings a text no more than one edit closer. -/
theorem distance_le_of_insert (x : Char) (a : List Char) :
    ∀ c, distance a c ≤ distance (x :: a) c + 1
  | [] => by
    simp only [distance_nil_right, List.length_cons]
    omega
  | z :: c => by
    have ih := distance_le_of_insert x a c
    have hright := distance_cons_right_le z a c
    rw [distance_cons_cons]
    omega

/-- Replacing a character brings a text no more than one edit closer. -/
theorem distance_le_of_replace (x y : Char) (a : List Char) :
    ∀ c, distance (x :: a) c ≤ distance (y :: a) c + 1
  | [] => by simp
  | z :: c => by
    have ih := distance_le_of_replace x y a c
    have hleft := distance_cons_left_le x a (z :: c)
    have hright := distance_cons_right_le z (x :: a) c
    have hboth := distance_cons_cons_le x z a c
    rw [distance_cons_cons y]
    omega

/-- What holds after the first character holds from the first character on. -/
theorem distance_cons_le {k : Nat} (x : Char) (h : ∀ c, distance a c ≤ distance b c + k) :
    ∀ c, distance (x :: a) c ≤ distance (x :: b) c + k
  | [] => by
    have hnil := h []
    simp only [distance_nil_right, List.length_cons] at hnil ⊢
    omega
  | z :: c => by
    have ih := distance_cons_le x h c
    have hhead := h (z :: c)
    have htail := h c
    rw [distance_cons_cons, distance_cons_cons]
    omega

/-- What bounds the change of a distance bounds it behind a common beginning. -/
theorem distance_append_le {k : Nat} (h : ∀ c, distance a c ≤ distance b c + k) :
    ∀ before c, distance (before ++ a) c ≤ distance (before ++ b) c + k
  | [] => h
  | x :: before => distance_cons_le x (distance_append_le h before)

/-- An edit changes a distance by one at most. -/
theorem distance_le_of_edit (h : Edit a b) (c : List Char) : distance a c ≤ distance b c + 1 := by
  cases h with
  | insert before after x => exact distance_append_le (distance_le_of_insert x after) before c
  | delete before after x =>
    exact distance_append_le (distance_cons_left_le x after) before c
  | replace before after x y =>
    exact distance_append_le (distance_le_of_replace x y after) before c

/-- No script of edits is shorter than the distance. -/
theorem distance_le_of_edits (h : Edits n a b) : distance a b ≤ n := by
  induction h with
  | none a => exact Nat.le_of_eq (distance_self a)
  | more h _ ih => exact Nat.le_trans (distance_le_of_edit h _) (Nat.succ_le_succ ih)

/-! ### As many edits are enough -/

/-- A text can be written from nothing by insertions. -/
theorem edits_insert : ∀ b : List Char, Edits b.length [] b
  | [] => .none []
  | y :: b => .more (.insert [] [] y) ((edits_insert b).cons y)

theorem edits_delete : ∀ a : List Char, Edits a.length a []
  | [] => .none []
  | x :: a => .more (.delete [] a x) (edits_delete a)

theorem Edits.min (hm : Edits m a b) (hn : Edits n a b) : Edits (min m n) a b := by
  rcases Nat.le_total m n with hle | hle
  · rw [Nat.min_eq_left hle]
    exact hm
  · rw [Nat.min_eq_right hle]
    exact hn

/-- Each of the three ways that are compared is a way to begin. -/
theorem edits_distance (a b : List Char) : Edits (distance a b) a b := by
  fun_induction distance a b with
  | case1 b => exact edits_insert b
  | case2 x a => exact edits_delete (x :: a)
  | case3 x a y b ihdelete ihinsert ihboth =>
    have hboth : Edits (distance a b + if x = y then 0 else 1) (x :: a) (y :: b) := by
      split
      next hxy =>
        subst hxy
        exact ihboth.cons x
      next => exact .more (.replace [] a x y) (ihboth.cons y)
    have hdelete : Edits (distance a (y :: b) + 1) (x :: a) (y :: b) :=
      .more (.delete [] a x) ihdelete
    have hinsert : Edits (distance (x :: a) b + 1) (x :: a) (y :: b) :=
      .more (.insert [] (x :: a) y) (ihinsert.cons y)
    exact (hdelete.min hinsert).min hboth

/-- The distance is the length of the shortest script of edits. -/
theorem isLeast_distance (a b : List Char) : IsLeast {n | Edits n a b} (distance a b) :=
  ⟨edits_distance a b, fun _ => distance_le_of_edits⟩

/-! ### Characters that do not matter -/

/-- A distance is kept if characters are renamed and none comes to agree, or ceases to agree,
with one of the other text. -/
theorem distance_map {f : Char → Char} {a b : List Char}
    (h : ∀ x ∈ a, ∀ y ∈ b, f x = y ↔ x = y) : distance (a.map f) b = distance a b := by
  fun_induction distance a b with
  | case1 b => exact distance_nil_left b
  | case2 x a => simp
  | case3 x a y b ihdelete ihinsert ihboth =>
    obtain ⟨hx, ha⟩ := List.forall_mem_cons.1 h
    have htail : ∀ z ∈ x :: a, ∀ w ∈ b, f z = w ↔ z = w := fun z hz w hw =>
      h z hz w (List.mem_cons_of_mem y hw)
    have hhead : (if f x = y then 0 else 1) = if x = y then 0 else 1 := by
      simp only [hx y List.mem_cons_self]
    have hinsert := ihinsert htail
    rw [List.map_cons] at hinsert ⊢
    rw [distance_cons_cons, ihdelete ha, hinsert, hhead,
      ihboth fun z hz w hw => ha z hz w (List.mem_cons_of_mem y hw)]

/-! ## Rows -/

/-- The distances from `a` to what begins with `done`, last character first, and goes on with
some of the characters of `ahead`. -/
def distancesTo (a done : List Char) : List Char → List Nat
  | [] => []
  | y :: ahead => distance a (y :: done) :: distancesTo a (y :: done) ahead

/-- From the row of `a` to the row of one character more. -/
theorem distanceRow_eq (x : Char) (a : List Char) : ∀ ahead done,
    distanceRow x ahead (distance (x :: a) done) (distance a done) (distancesTo a done ahead) =
      distancesTo (x :: a) done ahead
  | [], _ => rfl
  | y :: ahead, done => by
    have hhere : min (min (distance a (y :: done) + 1) (distance (x :: a) done + 1))
        (distance a done + if x == y then 0 else 1) = distance (x :: a) (y :: done) := by
      simp only [distance_cons_cons, beq_iff_eq]
    rw [distancesTo, distanceRow, hhere, distanceRow_eq x a ahead (y :: done), distancesTo]

/-- The distances from `a` to every initial part of `b`, last character first. -/
def distanceRowOf (a b : List Char) : List Nat :=
  distance a [] :: distancesTo a [] b

/-- The next row of the table holds the distances of a text with one more character. -/
theorem nextDistanceRow_eq (x : Char) (a b : List Char) :
    nextDistanceRow x b (distanceRowOf a b) = distanceRowOf (x :: a) b := by
  have hfirst : distance a [] + 1 = distance (x :: a) [] := by simp
  rw [distanceRowOf, nextDistanceRow, hfirst, distanceRow_eq, distanceRowOf]

/-- The rows go through a text from its first character to its last. -/
theorem distanceRows_eq (b : List Char) : ∀ cs a,
    distanceRows b (distanceRowOf a b) cs = distanceRowOf (cs.reverse ++ a) b
  | [], _ => rfl
  | x :: cs, a => by
    rw [List.reverse_cons, List.append_assoc, List.singleton_append,
      ← distanceRows_eq b cs (x :: a), ← nextDistanceRow_eq]
    rfl

theorem distancesTo_nil : ∀ ahead done : List Char,
    distancesTo [] done ahead = List.range' (done.length + 1) ahead.length
  | [], _ => rfl
  | y :: ahead, done => by
    rw [distancesTo, distance_nil_left, distancesTo_nil ahead, List.length_cons, List.length_cons,
      List.range'_succ]

/-- The first row of the table holds the distances from nothing. -/
theorem distanceRowOf_nil (b : List Char) : distanceRowOf [] b = List.range (b.length + 1) := by
  rw [distanceRowOf, distance_nil_left, distancesTo_nil, List.range_eq_range', List.range'_succ]
  rfl

/-- The last distance of a row is that of the whole text. -/
theorem getLastD_distancesTo (a : List Char) : ∀ ahead done : List Char,
    (distancesTo a done ahead).getLastD (distance a done) = distance a (ahead.reverse ++ done)
  | [], _ => rfl
  | y :: ahead, done => by
    rw [distancesTo, List.getLastD_cons, getLastD_distancesTo a ahead]
    simp

/-- The edit distance is the distance from the last characters on. -/
theorem editDistance_eq (a b : String) :
    editDistance a b = distance a.toList.reverse b.toList.reverse := by
  have hrows := distanceRows_eq b.toList a.toList []
  rw [distanceRowOf_nil, List.append_nil] at hrows
  have hlast := getLastD_distancesTo a.toList.reverse b.toList []
  rw [List.append_nil] at hlast
  rw [editDistance, hrows, distanceRowOf, List.getLastD_cons, hlast]

/-- A change of characters that tells the same ones apart keeps the distance. -/
theorem editDistance_map {f : Char → Char} {a b : String}
    (h : ∀ x ∈ a.toList, ∀ y ∈ b.toList, f x = y ↔ x = y) :
    editDistance (String.ofList (a.toList.map f)) b = editDistance a b := by
  rw [editDistance_eq, editDistance_eq, String.toList_ofList, ← List.map_reverse]
  exact distance_map fun x hx y hy => h x (List.mem_reverse.1 hx) y (List.mem_reverse.1 hy)

/-- The edit distance is the least number of edits. -/
theorem isLeast_editDistance (a b : String) :
    IsLeast {n | Edits n a.toList b.toList} (editDistance a b) := by
  have h := isLeast_distance a.toList.reverse b.toList.reverse
  rw [← editDistance_eq] at h
  simpa only [edits_reverse_iff] using h

end SqlAlgebra.Text
