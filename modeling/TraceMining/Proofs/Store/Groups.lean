import TraceMining.Proofs.Store.Table

/-
  This file shows what is in a table into which the items of a
  list are gathered.  The keys stand in the order in which
  they first came, and under a key is what the items with that
  key come to, whatever the others are.

  Key definitions include:
    * `Table.gathered`
    * `Table.amount`
    * `Table.keyed`

  Key theorems include:
    * `Table.keys_gathered`
    * `Table.get?_gathered`
    * `Table.entries_gathered`
    * `Table.forall_entries_gathered`
    * `Table.isNamed_gathered`
    * `Table.map_fst_filter_keyed`
    * `Table.flatMap_gathered_perm`
-/

------------------------------------------------------------
-- Gathering
------------------------------------------------------------

namespace TraceMining

namespace Table

variable {α β : Type}

/-
  Items in the groups of their keys; the first one of a group
  tells what the group starts from, and each adds to it.
-/
def gathered
    (key : β → String)
    (start : β → α)
    (add : β → α → α)
    (bs : List β) : Table α :=
  bs.foldl (fun t b => t.adjust (key b) (start b) (add b))
    empty

/- What the items of one group come to. -/
def amount
    (start : β → α)
    (add : β → α → α)
    (bs : List β) : Option α :=
  bs.head?.map fun b =>
    bs.foldl (fun a c => add c a) (start b)

variable {key : β → String}
variable {start : β → α}
variable {add : β → α → α}

/- The last item of a list is gathered last. -/
theorem gathered_concat
    (bs : List β)
    (b : β) :
    gathered key start add (bs ++ [b]) =
      (gathered key start add bs).adjust
        (key b) (start b) (add b) :=
  List.foldl_append

/- It adds to what its group comes to without it. -/
theorem amount_concat
    (bs : List β)
    (b : β) :
    amount start add (bs ++ [b]) =
      some (add b ((amount start add bs).getD (start b))) := by
  cases bs with
  | nil => rfl
  | cons c bs => simp [amount]

/- Groups stand in the order in which they first came. -/
theorem keys_gathered
    (key : β → String)
    (start : β → α)
    (add : β → α → α)
    (bs : List β) :
    (gathered key start add bs).keys =
      (bs.map key).eraseDups := by
  induction bs using List.reverseRecOn with
  | nil => rfl
  | append_singleton bs b ih =>
      rw [gathered_concat, adjust, keys_put, ih,
        List.map_append, List.map_singleton,
        Distinct.eraseDups_concat]
      simp only [List.mem_eraseDups]

/- A group is what the items with its key come to. -/
theorem get?_gathered
    (key : β → String)
    (start : β → α)
    (add : β → α → α)
    (bs : List β)
    (k : String) :
    (gathered key start add bs).get? k =
      amount start add (bs.filter fun b => key b == k) := by
  induction bs using List.reverseRecOn with
  | nil => rfl
  | append_singleton bs b ih =>
      rw [gathered_concat, adjust, List.filter_append]
      by_cases hKey : key b = k
      · have hHere : ([b].filter fun c => key c == k) = [b] :=
          List.filter_cons_of_pos (beq_iff_eq.mpr hKey)
        rw [hKey, get?_put_self, ih, hHere, amount_concat]
      · have hNone : ([b].filter fun c => key c == k) = [] :=
          List.filter_cons_of_neg (mt beq_iff_eq.mp hKey)
        rw [get?_put_of_ne _ _ (Ne.symm hKey), ih, hNone,
          List.append_nil]

/- If groups start from their keys, these tell what is in it. -/
theorem entries_gathered
    (start : String → α)
    (add : β → α → α)
    (bs : List β) :
    (gathered key (fun b => start (key b)) add bs).entries =
      (bs.map key).eraseDups.map fun k =>
        (k,
          (bs.filter fun b => key b == k).foldl
            (fun a b => add b a) (start k)) := by
  rw [← keys_gathered key (fun b => start (key b)) add bs]
  apply entries_eq_map_keys
  intro k hKey
  rw [keys_gathered, List.mem_eraseDups] at hKey
  rcases List.mem_map.mp hKey with ⟨b, hMember, hHere⟩
  rw [get?_gathered, amount]
  cases hGroup : bs.filter fun b => key b == k with
  | nil =>
      rw [List.filter_eq_nil_iff] at hGroup
      exact absurd (beq_iff_eq.mpr hHere) (hGroup b hMember)
  | cons c cs =>
      have hFirst : c ∈ bs.filter fun b => key b == k := by
        rw [hGroup]
        exact List.mem_cons_self
      have hSame : key c = k :=
        beq_iff_eq.mp (List.mem_filter.mp hFirst).2
      rw [List.head?_cons, Option.map_some, hSame]

/- What holds at the start and is kept holds of each group. -/
theorem forall_entries_gathered
    (isFine : String → α → Prop)
    {bs : List β}
    (hStart : ∀ b ∈ bs, isFine (key b) (start b))
    (hAdd :
      ∀ b ∈ bs, ∀ a,
        isFine (key b) a → isFine (key b) (add b a)) :
    ∀ e ∈ (gathered key start add bs).entries,
      isFine e.1 e.2 := by
  induction bs using List.reverseRecOn with
  | nil =>
      intro e hEntry
      exact absurd hEntry List.not_mem_nil
  | append_singleton bs b ih =>
      have hLast : b ∈ bs ++ [b] := by simp
      have hBefore :
          ∀ e ∈ (gathered key start add bs).entries,
            isFine e.1 e.2 := by
        apply ih
        · intro c hMember
          exact hStart c (List.mem_append_left [b] hMember)
        · intro c hMember
          exact hAdd c (List.mem_append_left [b] hMember)
      intro e hEntry
      rw [gathered_concat, adjust, entries_put] at hEntry
      rcases Entries.mem_put hEntry with rfl | hOld
      · apply hAdd b hLast
        cases hGroup :
            (gathered key start add bs).get? (key b) with
        | none => exact hStart b hLast
        | some a =>
            exact hBefore _ (mem_entries_of_get? hGroup)
      · exact hBefore e hOld

/- Groups that keep the name of their key are under it. -/
theorem isNamed_gathered
    {name : α → String}
    (hStart : ∀ b, name (start b) = key b)
    (hAdd : ∀ b a, name (add b a) = name a)
    (bs : List β) :
    (gathered key start add bs).IsNamed name := by
  apply forall_entries_gathered fun k a => k = name a
  · intro b _
    exact (hStart b).symm
  · intro b _ a hName
    rw [hAdd]
    exact hName

end Table

end TraceMining

------------------------------------------------------------
-- Keys That May Be Missing
------------------------------------------------------------

namespace TraceMining

namespace Table

variable {β γ : Type}

/- Items for which there is something, each with it. -/
def keyed
    (f : β → Option γ)
    (bs : List β) : List (β × γ) :=
  bs.filterMap fun b => (f b).map (Prod.mk b)

/- What there is for them, in order. -/
theorem map_snd_keyed
    (f : β → Option γ)
    (bs : List β) :
    (keyed f bs).map Prod.snd = bs.filterMap f := by
  rw [keyed, List.map_filterMap]
  congr 1
  funext b
  rw [Option.map_map]
  exact Option.map_id'

/- Those of one group, if something else is told from it. -/
theorem map_fst_filter_keyed
    (f : β → Option γ)
    (key : γ → String)
    (bs : List β)
    (k : String) :
    ((keyed f bs).filter fun v => key v.2 == k).map Prod.fst =
      bs.filter fun b => (f b).map key == some k := by
  rw [keyed, List.filter_filterMap, List.map_filterMap,
    ← List.filterMap_eq_filter]
  congr 1
  funext b
  cases hValue : f b with
  | none => simp [Option.guard, hValue]
  | some c =>
      by_cases hKey : key c = k
      all_goals simp [Option.guard, hValue, hKey, Option.filter]

end Table

end TraceMining

------------------------------------------------------------
-- Lists
------------------------------------------------------------

namespace TraceMining

/- One more item in a group is one more among all groups. -/
theorem Entries.flatMap_put_concat_perm
    {β : Type}
    (es : List (String × List β))
    (key : String)
    (b : β) :
    ((put es key ((get? es key).getD [] ++ [b])).flatMap
        Prod.snd).Perm
      (es.flatMap Prod.snd ++ [b]) := by
  induction es with
  | nil => exact List.Perm.refl [b]
  | cons first es ih =>
      rcases first with ⟨k, bs⟩
      by_cases hHere : k = key
      · rw [put, if_pos hHere, get?_cons,
          if_pos hHere.symm, List.flatMap_cons,
          List.flatMap_cons, Option.getD_some,
          List.append_assoc, List.append_assoc]
        exact List.perm_append_comm.append_left bs
      · rw [put, if_neg hHere, get?_cons,
          if_neg (Ne.symm hHere), List.flatMap_cons,
          List.flatMap_cons, List.append_assoc]
        exact ih.append_left bs

/- Groups that are lists have all items between them. -/
theorem Table.flatMap_gathered_perm
    {β : Type}
    (key : β → String)
    (bs : List β) :
    ((gathered key (fun _ => []) (fun b group => group ++ [b])
        bs).entries.flatMap Prod.snd).Perm bs := by
  induction bs using List.reverseRecOn with
  | nil => exact List.Perm.nil
  | append_singleton bs b ih =>
      rw [gathered_concat, adjust, entries_put]
      exact (Entries.flatMap_put_concat_perm _ _ b).trans
        (ih.append_right [b])

end TraceMining
