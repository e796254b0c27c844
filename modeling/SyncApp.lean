import SyncApp.Ratchet.Secrecy
import SyncApp.Ratchet.Replay
import SyncApp.Ratchet.Sharing
import SyncApp.Ratchet.Wraparound
import SyncApp.Ratchet.Agreement
import SyncApp.Ratchet.Interop
import SyncApp.Messaging.Dedup
import SyncApp.Messaging.Tombstones
import SyncApp.Messaging.Threads
import SyncApp.Outbox.Ordering
import SyncApp.Outbox.Draining
import SyncApp.Outbox.Relays
import SyncApp.GroupCommit.Batch
import SyncApp.Gateway.Streaming
import SyncApp.Gateway.ClientIP
import SyncApp.Gateway.Hub
import SyncApp.KeyDirectory.Serving
import SyncApp.KeyDirectory.Answerable
import SyncApp.SecretQueue.Acceptance
import SyncApp.SecretQueue.Payload
import SyncApp.Billing.Periods
import SyncApp.Router.Resilient
import SyncApp.Router.Codec
import SyncApp.Wire.Frame
import SyncApp.Fanout.Delivery
import SyncApp.Fanout.Presence
import SyncApp.SecretChats.Pinning
import SyncApp.SecretChats.KeyReuse
import SyncApp.SecretChats.Crossing
import SyncApp.SecretChats.Flight
import SyncApp.SecretChats.Engine
import SyncApp.SecretChats.Inbox
import SyncApp.Auth.SecondFactor
import SyncApp.Chats.Ownership
import SyncApp.Auth.Throttling
import SyncApp.Clients.Reconnect
import SyncApp.Clients.Cursor
import SyncApp.Clients.Polls
import SyncApp.Contacts.Replica
import SyncApp.Chats.Pairs
import SyncApp.Chats.Unread
import SyncApp.Messaging.Expiry
import SyncApp.Messaging.Marks
import SyncApp.Messaging.History
import SyncApp.Media.Shards
