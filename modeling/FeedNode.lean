import FeedNode.Rpc.View
import FeedNode.Feed.Store.Channels
import FeedNode.Feed.Store.Posts
import FeedNode.Feed.Store.Comments
import FeedNode.Feed.Store.Likes
import FeedNode.Feed.Store.Listing
import FeedNode.Hash.Blake3
import FeedNode.Delivery.Queue
import FeedNode.Delivery.Audience
import FeedNode.Rpc.Paging
import FeedNode.Auth.Resolver
import FeedNode.Node.Server
import FeedNode.Config.File
import FeedNode.Proofs.Rpc.RequestRoundTrip
import FeedNode.Proofs.Delivery.SessionOrder
import FeedNode.Proofs.Delivery.InFlight
import FeedNode.Proofs.Feed.Counters
import FeedNode.Proofs.Feed.Lifecycle
import FeedNode.Proofs.Node.Confinement
import FeedNode.Proofs.Node.Answers
import FeedNode.Proofs.Node.Failures
import FeedNode.Proofs.Node.Disclosure
import FeedNode.Proofs.Auth.UserIds
import FeedNode.Proofs.Auth.Revocation
import FeedNode.Proofs.Auth.Ownership
import FeedNode.Proofs.Node.PageCeiling
import FeedNode.Proofs.Node.FanOut
import FeedNode.Proofs.Auth.Agreement
import FeedNode.Proofs.Node.Silence
import FeedNode.Proofs.Node.Strangers
import FeedNode.Proofs.Node.AddedColumns
import FeedNode.Proofs.Node.LegacyDialect
import FeedNode.Proofs.Node.Truncation
import FeedNode.Proofs.Node.Ladder
import FeedNode.Proofs.Rpc.BinarySlots
import FeedNode.Proofs.Rpc.Rearrangement
import FeedNode.Proofs.Rpc.Views
import FeedNode.Proofs.Rpc.GreedyPages
import FeedNode.Proofs.Feed.Cursors
import FeedNode.Proofs.Stream.CleanEnds
import FeedNode.Proofs.Stream.Receipts
import FeedNode.Proofs.Node.Connections
import FeedNode.Proofs.Delivery.Lanes
import FeedNode.Proofs.Feed.Marks
import FeedNode.Proofs.Feed.Times
import FeedNode.Proofs.Auth.Restart
import FeedNode.Proofs.Files.Uploads
import FeedNode.Proofs.Auth.FreshIds
