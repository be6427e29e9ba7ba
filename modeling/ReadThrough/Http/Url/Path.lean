import ReadThrough.Http.Url.Escape

/-!
# Paths of URLs

A path is made of segments with a slash before each. The segments `.` and `..` stand for nothing and
for the parent of what follows, and are resolved when a URL is parsed.

A segment that reads like the letter of a drive, such as `C:`, is never removed by a `..` after it.
At the start of the path of a file it is the drive, whatever host was named.

## Main definitions

* `resolveDots segments`: the segments of a path without `.` and `..`
* `renderSegments segments`: the text of a path
* `parsePath isSlash cs`: the path a text is
* `parseFilePath segments`: the path of a file
-/

namespace ReadThrough.Url

/-! ## Segments -/

/-- A segment read with `%2e` for a dot. -/
def plainDots : List Char → List Char
  | '%' :: '2' :: e :: rest =>
    if e = 'e' ∨ e = 'E' then '.' :: plainDots rest else '%' :: '2' :: plainDots (e :: rest)
  | c :: rest => c :: plainDots rest
  | [] => []

/-- The segment stands for the parent of what follows. -/
def isParent (segment : List Char) : Bool := plainDots segment == ['.', '.']

/-- The segment stands for nothing. -/
def isSelf (segment : List Char) : Bool := plainDots segment == ['.']

/-- The segment reads like the letter of a drive, as far as a backslash if it holds one. -/
def isDrive : List Char → Bool
  | letter :: mark :: rest =>
    letter.isAlpha && (mark == ':' || mark == '|') && (rest.isEmpty || rest.head? == some '\\')
  | _ => false

/-- The parent of segments, latest first. -/
def parent : List (List Char) → List (List Char)
  | s :: rest => if isDrive s then s :: rest else rest
  | [] => []

/-- The segments that remain, latest first, after `done` when those that stand for nothing or for
their parent are resolved. One in the last place leaves an empty segment. -/
def resolveAfter (done : List (List Char)) : List (List Char) → List (List Char)
  | [] => done
  | [s] =>
    if isParent s then [] :: parent done else if isSelf s then [] :: done else s :: done
  | s :: rest =>
    if isParent s then resolveAfter (parent done) rest
    else if isSelf s then resolveAfter done rest
    else resolveAfter (s :: done) rest

/-- The segments of a path without those that stand for nothing or for their parent. -/
def resolveDots (segments : List (List Char)) : List (List Char) :=
  (resolveAfter [] segments).reverse

/-! ## Paths -/

/-- The segments of a text, but for a slash before the first: `isSlash` tells what separates
them. -/
def segments (isSlash : Char → Bool) (cs : List Char) : List (List Char) :=
  let inside := match cs with
    | c :: rest => if isSlash c then rest else c :: rest
    | [] => []
  inside.splitOnP isSlash

/-- The text of a path with segments. -/
def renderSegments (segments : List (List Char)) : List Char :=
  segments.flatMap fun s => '/' :: s

/-- The path that a text is. -/
def parsePath (isSlash : Char → Bool) (cs : List Char) : String :=
  String.ofList (renderSegments ((resolveDots (segments isSlash cs)).map (escape pathSet)))

/-- The path of a file with these segments, and whether it begins with a drive. It does not begin
with empty segments. -/
def parseFilePath (segments : List (List Char)) : String × Bool :=
  let segments := resolveDots segments
  let (segments, hasDrive) := match segments with
    | s :: rest => if isDrive s then ((s.take 1 ++ [':']) :: rest, true) else (s :: rest, false)
    | [] => ([], false)
  let segments := match segments.dropWhile (·.isEmpty) with
    | [] => [[]]
    | segments => segments
  (String.ofList (renderSegments (segments.map (escape pathSet))), hasDrive)

end ReadThrough.Url
