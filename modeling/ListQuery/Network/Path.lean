import ListQuery.Text.Split

/-!
# Paths of URLs

* `UrlPath.resolve` : the segments of a path, those with one or two dots being carried out.
* `UrlPath.read` : a path with its dots carried out.
-/

namespace ListQuery

namespace UrlPath

/-- A dot may be written as a byte. -/
def undot (segment : List Char) : List Char :=
  match segment.map Char.toLower with
  | ['%', '2', 'e'] => ['.']
  | ['.', '%', '2', 'e'] => ['.', '.']
  | ['%', '2', 'e', '.'] => ['.', '.']
  | ['%', '2', 'e', '%', '2', 'e'] => ['.', '.']
  | _ => segment

/-- A letter and a colon name a drive; a bar may stand for the colon. -/
def isDrive : List Char → Bool
  | [a, b] => a.isAlpha && (b = ':' || b = '|')
  | _ => false

/-- The segments, the last one first, without the last one; in a file system a drive stays. -/
def parent (inFileSystem : Bool) : List (List Char) → List (List Char)
  | s :: done => if inFileSystem && isDrive s && s.getLast? = some ':' then s :: done else done
  | [] => []

/-- A segment as it stands behind others. -/
def append (inFileSystem : Bool) (s : List Char) (done : List (List Char)) : List (List Char) :=
  if inFileSystem && done.isEmpty && isDrive s then [s.take 1 ++ [':']] else s :: done

/-- The segments behind those in `done`, the last one first.  One dot stands for the place where it
is, two dots for the one above. -/
def resolve (inFileSystem : Bool) (done : List (List Char)) : List (List Char) → List (List Char)
  | [] => done.reverse
  | s :: rest =>
    let done :=
      match undot s with
      | ['.'] => if rest.isEmpty then [] :: done else done
      | ['.', '.'] =>
        let done := parent inFileSystem done
        if rest.isEmpty then [] :: done else done
      | _ => append inFileSystem s done
    resolve inFileSystem done rest

/-- Segments with a slash in front of each. -/
def join (segments : List (List Char)) : List Char :=
  segments.flatMap ('/' :: ·)

/-- A path, with or without a slash in front, its dots being carried out. -/
def read (inFileSystem : Bool) (cs : List Char) : List Char :=
  let cs := if cs.head? = some '/' then cs.drop 1 else cs
  join (resolve inFileSystem [] (cs.splitOn '/'))

end UrlPath

end ListQuery
