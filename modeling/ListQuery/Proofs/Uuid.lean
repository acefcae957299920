import ListQuery.Uuid

/-!
# Identifiers read back from their text

* `Uuid.splitOn_toList_write` : the text has the digits in groups, with hyphens between them;
* `Uuid.read?_write` : an identifier is read back from its text.
-/

namespace ListQuery

theorem hexChar_ne_hyphen (d : Fin 16) : '-' ≠ hexChar d := by
  revert d
  decide

namespace Uuid

variable (u : Uuid)

theorem mapM_hexDigit?_map_hexChar (ds : List (Fin 16)) :
    (ds.map hexChar).mapM hexDigit? = some ds := by
  induction ds with
  | nil => rfl
  | cons d ds ih => simp [hexDigit?_hexChar, ih]

theorem ofDigits?_map_hexChar : ofDigits? (u.digits.map hexChar) = some u := by
  rw [ofDigits?, mapM_hexDigit?_map_hexChar]
  dsimp only
  rw [dif_pos u.length_eq]

/-- The digits of an identifier in groups. -/
def groups : List (List Char) :=
  let cs := u.digits.map hexChar
  [cs.take 8, (cs.drop 8).take 4, (cs.drop 12).take 4, (cs.drop 16).take 4, cs.drop 20]

theorem toList_write : u.write.toList = ['-'].intercalate u.groups := by
  rw [write, String.toList_ofList]
  simp [groups, List.intercalate, List.intersperse]

theorem length_toList_write : u.write.toList.length = 36 := by
  have hlength := u.length_eq
  rw [write, String.toList_ofList]
  simp [hlength]

/-- The hyphens of the text are those between the groups. -/
theorem splitOn_toList_write : u.write.toList.splitOn '-' = u.groups := by
  rw [toList_write]
  refine List.splitOn_intercalate '-' (fun group hgroup hmem => ?_) (List.cons_ne_nil _ _)
  have hdigit : '-' ∈ u.digits.map hexChar := by
    simp only [groups, List.mem_cons, List.not_mem_nil, or_false] at hgroup
    obtain rfl | rfl | rfl | rfl | rfl := hgroup
    · exact List.mem_of_mem_take hmem
    · exact List.mem_of_mem_drop (List.mem_of_mem_take hmem)
    · exact List.mem_of_mem_drop (List.mem_of_mem_take hmem)
    · exact List.mem_of_mem_drop (List.mem_of_mem_take hmem)
    · exact List.mem_of_mem_drop hmem
  obtain ⟨d, -, hd⟩ := List.mem_map.1 hdigit
  exact hexChar_ne_hyphen d hd.symm

theorem ofGroups?_toList_write : ofGroups? u.write.toList = some u := by
  have hdrop (n k : Nat) : ((u.digits.map hexChar).drop n).take k ++
      (u.digits.map hexChar).drop (n + k) = (u.digits.map hexChar).drop n := by
    rw [← List.drop_drop, List.take_append_drop]
  rw [ofGroups?, splitOn_toList_write]
  simp only [groups]
  rw [if_pos (by simp [u.length_eq])]
  simp only [List.append_assoc]
  rw [hdrop 16 4, hdrop 12 4, hdrop 8 4, List.take_append_drop, ofDigits?_map_hexChar]

/-- **An identifier is read back from its text.** -/
theorem read?_write : read? u.write.toList = some u := by
  rw [read?, length_toList_write, if_neg (by decide), if_pos rfl, ofGroups?_toList_write]

end Uuid

end ListQuery
