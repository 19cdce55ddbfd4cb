import ActivityLedger.Error
import ActivityLedger.Text.LowerCase

/-!
# Words for kinds

What callers may write for an operation, a kind of content and a vote.  Case
does not matter, and an operation may be written with or without hyphens and
underscores.
-/

namespace ActivityLedger

def Operation.ofWord (word : String) : Except Error Operation :=
  let plain := (Text.lowerCase word.toList).filter fun c => c != '-' && c != '_'
  match String.ofList plain with
  | "createcontent" => .ok .createContent
  | "updatecontent" => .ok .updateContent
  | "createcomment" => .ok .createComment
  | "updatecomment" => .ok .updateComment
  | unknown => .error (.argument (.unknownOperation unknown))

def ContentKind.ofWord (word : String) : Except Error ContentKind :=
  match String.ofList (Text.lowerCase word.toList) with
  | "post" | "blah" => .ok .post
  | "comment" => .ok .comment
  | unknown => .error (.argument (.unknownContentKind unknown))

def Vote.ofWord (word : String) : Except Error Vote :=
  match String.ofList (Text.lowerCase word.toList) with
  | "up" | "+1" => .ok .up
  | "down" | "-1" => .ok .down
  | unknown => .error (.argument (.unknownVote unknown))

/-- The vote that a pair of flags stands for, which cannot both be set. -/
def Vote.ofFlags : Bool → Bool → Except Error (Option Vote)
  | true, true => .error (.invariant .votesBothWays)
  | true, false => .ok (some .up)
  | false, true => .ok (some .down)
  | false, false => .ok none

end ActivityLedger
