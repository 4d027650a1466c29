/-
Placard/Proofs/Path.lean

Paths of files inside of a directory.

A plain name has no slash in it.  Putting one behind a directory with `joinPath` adds one part to
the parts of the path (`pathParts_joinPath`), whether or not the directory ends in a slash.  So a
file that is made there is in that directory under that name (`Files.create_joinPath`), and
different names give different paths (`joinPath_inj`).
-/
import Placard.Proofs.Tree

namespace Placard

/-- The text is a single name: it is not empty and has no slash in it. -/
structure Plain (name : String) : Prop where
  nonempty : name ≠ ""
  slash : '/' ∉ name.toList

/-! ### Parts of a path -/

namespace pathParts

theorem splitSlash_ne_nil (cs : List Char) : splitSlash cs ≠ [] := by
  fun_cases splitSlash cs with
  | case1 => exact List.cons_ne_nil _ _
  | case2 rest => exact List.cons_ne_nil _ _
  | case3 c rest hc h => exact List.cons_ne_nil _ _
  | case4 c rest hc part parts h => exact List.cons_ne_nil _ _

theorem splitSlash_cons_of_ne {c : Char} (hc : c ≠ '/') (rest : List Char) :
    ∃ part parts, splitSlash rest = part :: parts ∧
      splitSlash (c :: rest) = (c.toString ++ part) :: parts := by
  cases h : splitSlash rest with
  | nil => exact absurd h (splitSlash_ne_nil rest)
  | cons part parts =>
    refine ⟨part, parts, rfl, ?_⟩
    rw [splitSlash.eq_3 _ _ (fun hc' => hc hc'), h]

/-- A slash divides the parts of what is before it from the parts of what is after it. -/
theorem splitSlash_append (before after : List Char) :
    splitSlash (before ++ '/' :: after) = splitSlash before ++ splitSlash after := by
  induction before with
  | nil => rfl
  | cons c rest ih =>
    by_cases hc : c = '/'
    · subst hc
      show "" :: splitSlash (rest ++ '/' :: after) = "" :: (splitSlash rest ++ splitSlash after)
      rw [ih]
    · obtain ⟨part, parts, hrest, hcons⟩ := splitSlash_cons_of_ne hc rest
      obtain ⟨part', parts', hrest', hcons'⟩ :=
        splitSlash_cons_of_ne hc (rest ++ '/' :: after)
      rw [ih, hrest, List.cons_append] at hrest'
      obtain ⟨rfl, rfl⟩ := List.cons.inj hrest'
      rw [List.cons_append, hcons', hcons, List.cons_append]

/-- Without a slash there is one part. -/
theorem splitSlash_of_not_mem {cs : List Char} (h : '/' ∉ cs) :
    splitSlash cs = [String.ofList cs] := by
  induction cs with
  | nil => rfl
  | cons c rest ih =>
    obtain ⟨hc, hrest⟩ := not_or.mp (mt List.mem_cons.mpr h)
    obtain ⟨part, parts, hparts, hcons⟩ := splitSlash_cons_of_ne (Ne.symm hc) rest
    rw [ih hrest] at hparts
    obtain ⟨rfl, rfl⟩ := List.cons.inj hparts
    rw [hcons, Char.toString, String.singleton_eq_ofList, ← String.ofList_append]
    rfl

/-- The parts of a path that are not empty. -/
def named (path : String) : List String := (splitSlash path.toList).filter (· != "")

/-- A slash at the end counts as a dot. -/
theorem eq_named_or (path : String) :
    pathParts path = named path ∨ pathParts path = named path ++ ["."] := by
  unfold pathParts
  by_cases h : (splitSlash path.toList).getLast? = some ""
  · exact .inr (if_pos h)
  · exact .inl (if_neg h)

end pathParts

/-! ### A name behind a directory -/

section

variable {directory name : String}

theorem Plain.not_absolute (h : Plain name) : isAbsolute name = false := by
  unfold isAbsolute
  rw [beq_eq_false_iff_ne]
  intro hhead
  exact h.slash (List.mem_of_mem_head? (Option.mem_def.mpr hhead))

/-- The three ways in which a name is put behind a directory. -/
theorem joinPath_cases (h : Plain name) (directory : String) :
    (directory = "" ∧ joinPath directory name = name) ∨
    (∃ front, directory.toList = front ++ ['/'] ∧ joinPath directory name = directory ++ name) ∨
    (directory.toList ≠ [] ∧ joinPath directory name = directory ++ "/" ++ name) := by
  unfold joinPath
  by_cases hempty : directory = ""
  · exact .inl ⟨hempty, if_pos (.inr hempty)⟩
  rw [if_neg (by simp [h.not_absolute, hempty])]
  by_cases hlast : directory.toList.getLast? = some '/'
  · obtain ⟨front, hfront⟩ := List.getLast?_eq_some_iff.mp hlast
    exact .inr (.inl ⟨front, hfront, if_pos hlast⟩)
  · exact .inr (.inr ⟨mt String.toList_eq_nil_iff.mp hempty, if_neg hlast⟩)

theorem isAbsolute_joinPath (h : Plain name) :
    isAbsolute (joinPath directory name) = isAbsolute directory := by
  have happend : ∀ more, directory.toList ≠ [] → isAbsolute (directory ++ more) =
      isAbsolute directory := by
    intro more hne
    obtain ⟨c, rest, hc⟩ := List.exists_cons_of_ne_nil hne
    rw [isAbsolute, isAbsolute, String.toList_append, hc]
    rfl
  rcases joinPath_cases h directory with ⟨rfl, hjoin⟩ | ⟨front, hfront, hjoin⟩ | ⟨hne, hjoin⟩
  · rw [hjoin, h.not_absolute]
    rfl
  · rw [hjoin, happend name (by simp [hfront])]
  · rw [hjoin, String.append_assoc, happend _ hne]

/-- The name is one more part. -/
theorem pathParts_joinPath (h : Plain name) :
    pathParts (joinPath directory name) = pathParts.named directory ++ [name] := by
  have hname : pathParts.splitSlash name.toList = [name] := by
    rw [pathParts.splitSlash_of_not_mem h.slash, String.ofList_toList]
  -- it is enough to know the parts of what stands in front of it
  have hparts : ∀ front, pathParts.splitSlash (joinPath directory name).toList = front ++ [name] →
      front.filter (· != "") = pathParts.named directory →
      pathParts (joinPath directory name) = pathParts.named directory ++ [name] := by
    intro front hsplit hnamed
    unfold pathParts
    rw [hsplit]
    dsimp only
    rw [List.getLast?_concat, if_neg (by simp [h.nonempty]), List.filter_append, hnamed]
    simp [h.nonempty]
  rcases joinPath_cases h directory with ⟨rfl, hjoin⟩ | ⟨front, hfront, hjoin⟩ | ⟨hne, hjoin⟩
  · exact hparts [] (by rw [hjoin, hname]; rfl) rfl
  · -- the slash that is there already ends the last part of the directory
    refine hparts (pathParts.splitSlash front) ?_ ?_
    · rw [hjoin, String.toList_append, hfront, List.append_assoc]
      exact (pathParts.splitSlash_append front name.toList).trans (by rw [hname])
    · rw [pathParts.named, hfront, pathParts.splitSlash_append front []]
      simp [pathParts.splitSlash]
  · -- the slash is put between the two
    refine hparts (pathParts.splitSlash directory.toList) ?_ rfl
    rw [hjoin, String.append_assoc, String.toList_append, String.toList_append]
    exact (pathParts.splitSlash_append directory.toList name.toList).trans (by rw [hname])

/-- Different names in one directory have different paths. -/
theorem joinPath_inj {a b : String} (ha : Plain a) (hb : Plain b)
    (h : joinPath directory a = joinPath directory b) : a = b := by
  have hparts := congrArg pathParts h
  rw [pathParts_joinPath ha, pathParts_joinPath hb] at hparts
  exact List.singleton_inj.mp (List.append_cancel_left hparts)

end

/-! ### A file behind a directory -/

namespace Files

variable {f g : Files} {l m : Location} {directory name : String}

theorem leadsTo_of_walk (hwalk : f.walk (f.start directory) (pathParts.named directory) = .ok l)
    (hl : f.at? l = some .directory) : f.LeadsTo directory l := by
  refine ⟨?_, hl⟩
  rcases pathParts.eq_named_or directory with h | h
  · rw [h, hwalk]
  · rw [h]
    exact walk_append_eq_ok.mpr ⟨l, hwalk, walk_cons_eq_ok.mpr ⟨hl, .inl ⟨rfl, rfl⟩⟩⟩

/-- Where a path that need not exist would be: what is in front of its last name leads to a
directory. -/
theorem resolveNew_eq_ok {path : String} : f.resolveNew path = .ok (l, name) ↔
    checkPath path = .ok () ∧ f.walk (f.start path) (pathParts path).dropLast = .ok l ∧
      f.at? l = some .directory ∧ (pathParts path).getLastD "." = name ∧
      name.utf8ByteSize ≤ nameLimit := by
  unfold resolveNew
  rw [Except.bind_eq_ok]
  constructor
  · rintro ⟨_, hcheck, hr⟩
    obtain ⟨k, hwalk, hr⟩ := Except.bind_eq_ok.mp hr
    dsimp only at hr
    cases hk : f.at? k with
    | none => rw [hk] at hr; cases hr
    | some e =>
      rw [hk] at hr
      cases e with
      | file content => cases hr
      | directory =>
        by_cases hlong : nameLimit < ((pathParts path).getLastD ".").utf8ByteSize
        · rw [if_pos hlong] at hr
          cases hr
        · rw [if_neg hlong] at hr
          cases hr
          exact ⟨hcheck, hwalk, hk, rfl, Nat.le_of_not_lt hlong⟩
  · rintro ⟨hcheck, hwalk, hl, rfl, hshort⟩
    refine ⟨(), hcheck, Except.bind_eq_ok.mpr ⟨l, hwalk, ?_⟩⟩
    dsimp only
    rw [hl]
    dsimp only
    rw [if_neg (Nat.not_lt.mpr hshort)]
    rfl

/-- A file is made where no directory is, under a name that does not stand for one. -/
theorem create_eq_ok {path : String} (hc : f.create path = .ok (m, g)) :
    ∃ l name, f.resolveNew path = .ok (l, name) ∧ isDots name = false ∧ m = l ++ [name] ∧
      f.at? m ≠ some .directory ∧ g = f.put m (.file ByteArray.empty) := by
  unfold create at hc
  obtain ⟨⟨l, name⟩, hr, hmade⟩ := Except.bind_eq_ok.mp hc
  dsimp only at hmade
  by_cases hdots : isDots name = true
  · rw [if_pos hdots] at hmade
    cases hmade
  rw [if_neg hdots] at hmade
  have hfile : f.at? (l ++ [name]) ≠ some .directory := by
    intro hat
    rw [hat] at hmade
    cases hmade
  split at hmade
  · cases hmade
  · cases hmade
    exact ⟨l, name, hr, eq_false_of_ne_true hdots, rfl, hfile, rfl⟩

/-- Where a name behind a directory would be: in that directory, under that name. -/
theorem resolveNew_joinPath (h : Plain name) {last : String}
    (hr : f.resolveNew (joinPath directory name) = .ok (l, last)) :
    f.LeadsTo directory l ∧ last = name := by
  have hstart : f.start (joinPath directory name) = f.start directory := by
    rw [start, start, isAbsolute_joinPath h]
  obtain ⟨-, hwalk, hl, hlast, -⟩ := resolveNew_eq_ok.mp hr
  rw [pathParts_joinPath h, List.dropLast_concat, hstart] at hwalk
  rw [pathParts_joinPath h, List.getLastD_concat] at hlast
  exact ⟨leadsTo_of_walk hwalk hl, hlast.symm⟩

/-- A file that is made behind a directory: it is in that directory, where no directory is. -/
theorem create_joinPath (h : Plain name) (hc : f.create (joinPath directory name) = .ok (m, g)) :
    ∃ l, f.LeadsTo directory l ∧ m = l ++ [name] ∧ f.at? m ≠ some .directory ∧
      g = f.put m (.file ByteArray.empty) := by
  obtain ⟨l, last, hr, -, hm, hfile, hg⟩ := create_eq_ok hc
  obtain ⟨hl, rfl⟩ := resolveNew_joinPath h hr
  exact ⟨l, hl, hm, hfile, hg⟩

end Files

end Placard
