import FeedNode.Feed.Store

/-!
# Posts

Posts are numbered within their channel from 1 and never removed. Every change to a post also
moves the time of the last change of its channel.
-/

namespace FeedNode.Feed

/-- The post with a new payload. -/
def Post.edit (p : Post) (now : Nat) (d : Draft) : Post :=
  { p with
    content := d.content
    thumbnails := d.thumbnails
    hashId := orPlaceholder d.hashId
    proof := orPlaceholder d.proof
    status := .edited
    updatedAt := now }

/-- The post without its payload. -/
def Post.delete (p : Post) (now : Nat) : Post :=
  { p with content := [], thumbnails := [], status := .deleted, updatedAt := now }

namespace Store

/-- Adds a post to a channel. -/
def publishPost (s : Store) (now channelId : Nat) (d : Draft) : Except StoreError (Post × Store) :=
  match s.channel? channelId with
  | none => .error .notFound
  | some channel =>
    let row : Post :=
      { channelId
        postId := channel.nextPostId
        createdAt := now
        updatedAt := now
        nextCommentId := 1
        comments := 0
        likes := 0
        status := .available
        content := d.content
        thumbnails := d.thumbnails
        hashId := orPlaceholder d.hashId
        proof := orPlaceholder d.proof }
    let s := { s with posts := s.posts ++ [row] }
    .ok (row, s.updateChannel channelId fun c =>
      { c with nextPostId := c.nextPostId + 1, updatedAt := now })

/-- Gives a post that is not deleted a new payload. -/
def editPost (s : Store) (now channelId postId : Nat) (d : Draft) :
    Except StoreError (Post × Store) :=
  match s.post? channelId postId with
  | none => .error .notFound
  | some p =>
    if p.status = .deleted then .error .wrongState
    else
      let s := s.updatePost channelId postId fun p => p.edit now d
      .ok (p.edit now d, s.touchChannel channelId now)

/-- Deletes a post: its row and its counters stay, its payload goes. -/
def deletePost (s : Store) (now channelId postId : Nat) : Except StoreError Store :=
  match s.post? channelId postId with
  | none => .error .notFound
  | some p =>
    if p.status = .deleted then .error .wrongState
    else
      let s := s.updatePost channelId postId fun p => p.delete now
      .ok (s.touchChannel channelId now)

end Store

end FeedNode.Feed
