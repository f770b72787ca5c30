import PearlReport.Files

/-! Joined paths. A plain name joined to a path comes after the names of that path. -/

namespace PearlReport.Path

theorem splitAt_slash (cs ds seen : List Char) :
    plainNames.splitAt (cs ++ '/' :: ds) seen =
      plainNames.splitAt cs seen ++ plainNames.splitAt ds [] := by
  induction cs generalizing seen with
  | nil => rfl
  | cons c cs ih =>
    rw [List.cons_append, plainNames.splitAt, plainNames.splitAt]
    split
    · rw [ih, List.cons_append]
    · exact ih _

theorem splitAt_plain {cs : List Char} (h : '/' ∉ cs) (seen : List Char) :
    plainNames.splitAt cs seen = [seen.reverse ++ cs] := by
  induction cs generalizing seen with
  | nil => simp [plainNames.splitAt]
  | cons c cs ih =>
    rw [List.mem_cons, not_or] at h
    rw [plainNames.splitAt, if_neg (Ne.symm h.1), ih h.2]
    simp

section

variable {name : String} (hname : name ≠ "") (hplain : '/' ∉ name.toList)

include hplain in
theorem isAbsolute_plain : isAbsolute name = false := by
  rw [isAbsolute, decide_eq_false_iff_not]
  exact fun h => hplain (List.mem_of_head? h)

include hplain in
theorem endsInSlash_plain : endsInSlash name = false := by
  rw [endsInSlash, decide_eq_false_iff_not]
  exact fun h => hplain (List.mem_of_getLast? h)

include hname hplain in
theorem plainNames_join (directory : String) :
    plainNames (join directory name) = plainNames directory ++ [name] := by
  have hlast (cs : List Char) : plainNames.splitAt (cs ++ '/' :: name.toList) [] =
      plainNames.splitAt cs [] ++ [name.toList] := by
    rw [splitAt_slash, splitAt_plain hplain]
    rfl
  rw [join, isAbsolute_plain hplain, if_neg Bool.false_ne_true]
  split
  case isTrue hempty =>
    subst hempty
    simp [plainNames, splitAt_plain hplain, hname, plainNames.splitAt]
  case isFalse =>
    split
    case isTrue hslash =>
      obtain ⟨cs, hcs⟩ := List.getLast?_eq_some_iff.1 (of_decide_eq_true hslash)
      have hjoin : (directory ++ name).toList = cs ++ '/' :: name.toList := by
        rw [String.toList_append, hcs, List.append_assoc]
        rfl
      rw [plainNames, plainNames, hjoin, hlast, hcs, splitAt_slash]
      simp [plainNames.splitAt, hname]
    case isFalse =>
      have hjoin : (directory ++ "/" ++ name).toList = directory.toList ++ '/' :: name.toList := by
        simp
      rw [plainNames, hjoin, hlast, plainNames]
      simp [hname]

include hname hplain in
theorem names_join (directory : String) :
    names (join directory name) = plainNames directory ++ [name] := by
  have hend (front : String) : endsInSlash (front ++ name) = endsInSlash name := by
    rw [endsInSlash, endsInSlash, String.toList_append, List.getLast?_append,
      List.getLast?_eq_some_getLast (by simpa using hname), Option.or]
  have hslash : endsInSlash (join directory name) = false := by
    rw [← endsInSlash_plain hplain, join, isAbsolute_plain hplain, if_neg Bool.false_ne_true]
    split
    · rfl
    · split <;> exact hend _
  rw [names, hslash, plainNames_join hname hplain, if_neg (by simp)]

include hplain in
theorem isAbsolute_join (directory : String) :
    isAbsolute (join directory name) = isAbsolute directory := by
  rw [join, isAbsolute_plain hplain, if_neg Bool.false_ne_true]
  split
  case isTrue hempty =>
    rw [hempty, isAbsolute_plain hplain]
    rfl
  case isFalse hsome =>
    have hhead (cs : List Char) : (directory.toList ++ cs).head? = directory.toList.head? := by
      rw [List.head?_append, List.head?_eq_some_head (by simpa using hsome), Option.or]
    split <;> simp [isAbsolute, hhead]

end

end PearlReport.Path
