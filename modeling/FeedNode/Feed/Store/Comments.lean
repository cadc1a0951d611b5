import FeedNode.Feed.Store

/-!
# Comments

Comments are numbered within their post from 1 and never removed. Only the author may edit a
comment; the author or the owner may delete it; blocking hides it until it is unblocked.
-/

namespace FeedNode.Feed

/-- The comment with a new payload. -/
def Comment.edit (c : Comment) (now : Nat) (d : Draft) : Comment :=
  { c with
    content := d.content
    thumbnails := d.thumbnails
    hashId := orPlaceholder d.hashId
    proof := orPlaceholder d.proof
    status := .edited
    updatedAt := now }

/-- The comment without its payload. -/
def Comment.delete (c : Comment) (now : Nat) : Comment :=
  { c with content := [], thumbnails := [], status := .deleted, updatedAt := now }

/-- The comment hidden, or shown again. -/
def Comment.setBlocked (c : Comment) (now : Nat) (blocked : Bool) : Comment :=
  { c with status := if blocked then .blocked else .available, updatedAt := now }

namespace Store

/-- Adds a comment to a post, on the post itself or in answer to one of its comments. -/
def postComment (s : Store) (now author channelId postId referId : Nat) (d : Draft) :
    Except StoreError (SignedComment × Store) :=
  match s.post? channelId postId with
  | none => .error .notFound
  | some post =>
    if referId != 0 && (s.comment? channelId postId referId).isNone then .error .notFound
    else
      let row : Comment :=
        { channelId
          postId
          commentId := post.nextCommentId
          referId
          author
          createdAt := now
          updatedAt := now
          likes := 0
          status := .available
          content := d.content
          thumbnails := d.thumbnails
          hashId := orPlaceholder d.hashId
          proof := orPlaceholder d.proof }
      let s := { s with comments := s.comments ++ [row] }
      .ok (s.sign row, s.updatePost channelId postId fun p =>
        { p with nextCommentId := p.nextCommentId + 1, comments := p.comments + 1 })

/-- Gives the author's comment a new payload, while it is neither deleted nor blocked. -/
def editComment (s : Store) (now userId channelId postId commentId : Nat) (d : Draft) :
    Except StoreError (SignedComment × Store) :=
  match s.comment? channelId postId commentId with
  | none => .error .notFound
  | some c =>
    if c.author != userId then .error .notAuthorized
    else if !c.status.isReadable then .error .wrongState
    else
      .ok (s.sign (c.edit now d),
        s.updateComment channelId postId commentId fun c => c.edit now d)

/-- Deletes a comment, for its author or for the owner. -/
def deleteComment (s : Store) (now userId : Nat) (isOwner : Bool)
    (channelId postId commentId : Nat) : Except StoreError Store :=
  match s.comment? channelId postId commentId with
  | none => .error .notFound
  | some c =>
    if c.author != userId && !isOwner then .error .notAuthorized
    else if c.status = .deleted then .error .wrongState
    else .ok (s.updateComment channelId postId commentId fun c => c.delete now)

/-- Hides a comment that is shown, or shows one that is hidden. -/
def setBlocked (s : Store) (now channelId postId commentId : Nat) (blocked : Bool) :
    Except StoreError Store :=
  match s.comment? channelId postId commentId with
  | none => .error .notFound
  | some c =>
    let allowed := if blocked then c.status.isReadable else c.status == .blocked
    if allowed then
      .ok (s.updateComment channelId postId commentId fun c => c.setBlocked now blocked)
    else .error .wrongState

end Store

end FeedNode.Feed
