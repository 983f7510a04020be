import Mathlib.Data.List.Basic

/-! Texts from which what was written can be told.

Things are written one after the other, and what was written has to be told from all of the text.
`Tells` is the property of a way of writing that goes together: wherever the text of a thing stands,
it tells the thing and where it ends, whatever follows. Lists keep it as long as what follows the
list is `Foreign`, so that it cannot be taken for one more element (`Tells.flatMap`,
`Tells.intercalate`). A text that ends at the first occurrence of some character is told by
`append_stop_inj`. -/
namespace CrossBrowser.Text
variable {α κ : Type}

/-- Whatever follows it, the text of a thing tells the `key` of the thing, and where it ends. -/
def Tells (text : α → List Char) (key : α → κ) : Prop :=
  ∀ ⦃a b : α⦄ ⦃r s : List Char⦄, text a ++ r = text b ++ s → key a = key b ∧ r = s

/-- A text that begins like that of no thing. -/
def Foreign (text : α → List Char) (r : List Char) : Prop := ∀ a t, r ≠ text a ++ t

/-- Texts that a reader takes apart tell what it reads. -/
theorem Tells.of_read {text : α → List Char} {key : α → κ}
    (read : List Char → Option (κ × List Char))
    (h : ∀ a r, read (text a ++ r) = some (key a, r)) : Tells text key := by
  intro a b r s heq
  have hread := h a r
  rw [heq, h b s] at hread
  obtain ⟨hkey, hrest⟩ := Prod.mk.inj (Option.some.inj hread)
  exact ⟨hkey.symm, hrest.symm⟩

/-- What a reader refuses is foreign to what it reads. -/
theorem Foreign.of_read {text : α → List Char} (read : List Char → Option (κ × List Char))
    (h : ∀ a t, read (text a ++ t) ≠ none) {r : List Char} (hr : read r = none) :
    Foreign text r :=
  fun a t heq => h a t (heq ▸ hr)

theorem Tells.between {text : α → List Char} {key : α → κ} (h : Tells text key)
    (front back : List Char) : Tells (fun a => front ++ (text a ++ back)) key := by
  intro a b r s heq
  simp only [List.append_assoc, List.append_cancel_left_eq] at heq
  obtain ⟨hkey, hrest⟩ := h heq
  exact ⟨hkey, List.append_cancel_left hrest⟩

/-- Things written one after the other, up to something else. -/
theorem Tells.flatMap {text : α → List Char} {key : α → κ} (h : Tells text key)
    {xs ys : List α} {r s : List Char} (hr : Foreign text r) (hs : Foreign text s)
    (heq : xs.flatMap text ++ r = ys.flatMap text ++ s) : xs.map key = ys.map key ∧ r = s := by
  induction xs generalizing ys with
  | nil =>
    cases ys with
    | nil => exact ⟨rfl, heq⟩
    -- What follows the list that has ended would begin like one more element of the other.
    | cons y ys =>
      rw [List.flatMap_cons, List.append_assoc] at heq
      exact absurd heq (hr y _)
  | cons x xs ih =>
    cases ys with
    | nil =>
      rw [List.flatMap_cons, List.append_assoc] at heq
      exact absurd heq.symm (hs x _)
    | cons y ys =>
      rw [List.flatMap_cons, List.flatMap_cons, List.append_assoc, List.append_assoc] at heq
      obtain ⟨hkey, hrest⟩ := h heq
      obtain ⟨hkeys, hend⟩ := ih hrest
      exact ⟨by rw [List.map_cons, List.map_cons, hkey, hkeys], hend⟩

theorem intercalate_cons (separator : List Char) (x : List Char) (xs : List (List Char)) :
    separator.intercalate (x :: xs) = x ++ xs.flatMap (separator ++ ·) := by
  induction xs generalizing x with
  | nil => simp
  | cons y ys ih =>
    rw [List.intercalate_cons_cons, ih, List.flatMap_cons, List.append_assoc, List.append_assoc]

/-- Things written one after the other with separators between them. What follows is not one more
thing, with or without a separator. -/
theorem Tells.intercalate {text : α → List Char} {key : α → κ} (h : Tells text key)
    (separator : List Char) {xs ys : List α} {r s : List Char} (hr : Foreign text r)
    (hs : Foreign text s) (hr' : Foreign (fun a => separator ++ text a) r)
    (hs' : Foreign (fun a => separator ++ text a) s)
    (heq : separator.intercalate (xs.map text) ++ r = separator.intercalate (ys.map text) ++ s) :
    xs.map key = ys.map key ∧ r = s := by
  have hcons : ∀ z zs t, separator.intercalate ((z :: zs).map text) ++ t =
      text z ++ (zs.flatMap (fun a => separator ++ text a) ++ t) := fun z zs t => by
    rw [List.map_cons, intercalate_cons, List.flatMap_map, List.append_assoc]
  cases xs with
  | nil =>
    cases ys with
    | nil => exact ⟨rfl, heq⟩
    | cons y ys =>
      rw [hcons] at heq
      exact absurd heq (hr y _)
  | cons x xs =>
    cases ys with
    | nil =>
      rw [hcons] at heq
      exact absurd heq.symm (hs x _)
    | cons y ys =>
      rw [hcons, hcons] at heq
      obtain ⟨hkey, hrest⟩ := h heq
      have hseparated : Tells (fun a => separator ++ text a) key := by
        simpa using h.between separator []
      obtain ⟨hkeys, hend⟩ := hseparated.flatMap hr' hs' hrest
      exact ⟨by rw [List.map_cons, List.map_cons, hkey, hkeys], hend⟩

/-! ### Texts that end at a character -/

theorem append_stop_inj (stop : Char) {a b r s : List Char} (ha : stop ∉ a) (hb : stop ∉ b)
    (h : a ++ stop :: r = b ++ stop :: s) : a = b ∧ r = s := by
  induction a generalizing b with
  | nil =>
    cases b with
    | nil => exact ⟨rfl, (List.cons.inj h).2⟩
    | cons d b => exact absurd (List.cons.inj h).1 fun hd => hb (hd ▸ List.mem_cons_self)
  | cons c a ih =>
    cases b with
    | nil => exact absurd (List.cons.inj h).1.symm fun hc => ha (hc ▸ List.mem_cons_self)
    | cons d b =>
      obtain ⟨hcd, hrest⟩ := List.cons.inj h
      obtain ⟨hab, hrs⟩ := ih (fun hm => ha (List.mem_cons_of_mem _ hm))
        (fun hm => hb (List.mem_cons_of_mem _ hm)) hrest
      exact ⟨by rw [hcd, hab], hrs⟩

/-- The same from the end: what follows the last occurrence of the character. -/
theorem append_last_stop_inj (stop : Char) {a b r s : List Char} (ha : stop ∉ a) (hb : stop ∉ b)
    (h : r ++ stop :: a = s ++ stop :: b) : r = s ∧ a = b := by
  have hreverse := congrArg List.reverse h
  simp only [List.reverse_append, List.reverse_cons, List.append_assoc, List.singleton_append]
    at hreverse
  obtain ⟨hab, hrs⟩ := append_stop_inj stop (mt List.mem_reverse.mp ha) (mt List.mem_reverse.mp hb)
    hreverse
  exact ⟨List.reverse_injective hrs, List.reverse_injective hab⟩

/-- Things whose texts are not empty and do not have the stop character, written one after the other
with separators that begin with it. -/
theorem intercalate_stop_inj (stop : Char) (separator : List Char) {text : α → List Char}
    {xs ys : List α} (hx : ∀ x ∈ xs, text x ≠ [] ∧ stop ∉ text x)
    (hy : ∀ y ∈ ys, text y ≠ [] ∧ stop ∉ text y)
    (hinj : ∀ x ∈ xs, ∀ y ∈ ys, text x = text y → x = y)
    (h : (stop :: separator).intercalate (xs.map text) =
      (stop :: separator).intercalate (ys.map text)) : xs = ys := by
  induction xs generalizing ys with
  | nil =>
    cases ys with
    | nil => rfl
    | cons y ys =>
      rw [List.map_cons, intercalate_cons] at h
      exact absurd (List.append_eq_nil_iff.mp h.symm).1 (hy y List.mem_cons_self).1
  | cons x xs ih =>
    cases ys with
    | nil =>
      rw [List.map_cons, intercalate_cons] at h
      exact absurd (List.append_eq_nil_iff.mp h).1 (hx x List.mem_cons_self).1
    | cons y ys =>
      have hstopx := (hx x List.mem_cons_self).2
      have hstopy := (hy y List.mem_cons_self).2
      have hfirst := hinj x List.mem_cons_self y List.mem_cons_self
      cases xs with
      | nil =>
        cases ys with
        | nil => rw [hfirst (by simpa using h)]
        -- Where only one of the lists goes on, its text has the stop character in it.
        | cons y' ys => exact absurd (by simpa using congrArg (stop ∈ ·) h) hstopx
      | cons x' xs =>
        cases ys with
        | nil => exact absurd (by simpa using congrArg (stop ∈ ·) h.symm) hstopy
        | cons y' ys =>
          simp only [List.map_cons, List.intercalate_cons_cons, List.append_assoc,
            List.cons_append] at h
          obtain ⟨hxy, hrest⟩ := append_stop_inj stop hstopx hstopy h
          have htails := ih (fun z hz => hx z (List.mem_cons_of_mem _ hz))
            (fun z hz => hy z (List.mem_cons_of_mem _ hz))
            (fun z hz w hw => hinj z (List.mem_cons_of_mem _ hz) w (List.mem_cons_of_mem _ hw))
            (List.append_cancel_left hrest)
          rw [hfirst hxy, htails]

end CrossBrowser.Text
