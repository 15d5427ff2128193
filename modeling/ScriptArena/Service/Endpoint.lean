import ScriptArena.Text.Digit

namespace ScriptArena.Endpoint

def placeholder : List Char := "\x7bid\x7d".toList

def challengeStem : List Char := "/api/challenges/".toList

-- The segment behind the stem is an id.
def hideChallenge (path : List Char) : List Char :=
  if challengeStem.isPrefixOf path then
    let rest := path.drop challengeStem.length
    let behind := rest.dropWhile (· != '/')
    if behind.length = rest.length then path else challengeStem ++ placeholder ++ behind
  else path

-- Segments that are numbers give way. The slash behind one does not begin another; a line break
-- may stand behind the last.
def hideNumbers (path : List Char) : List Char :=
  match path with
  | [] => []
  | c :: rest =>
    if c = '/' ∧ (rest.takeWhile Text.isDecimal).isEmpty = false then
      match _h : rest.dropWhile Text.isDecimal with
      | [] => '/' :: placeholder
      | ['\n'] => '/' :: placeholder ++ ['\n']
      | '/' :: more => '/' :: placeholder ++ '/' :: hideNumbers more
      | _ => c :: hideNumbers rest
    else c :: hideNumbers rest
termination_by path.length
decreasing_by
  · have shorter := (List.dropWhile_sublist Text.isDecimal (l := rest)).length_le
    simp only [_h, List.length_cons] at shorter ⊢
    omega
  · simp
  · simp

def normalize (path : String) : String :=
  String.ofList (hideNumbers (hideChallenge path.toList))

end ScriptArena.Endpoint
