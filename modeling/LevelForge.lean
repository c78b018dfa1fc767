import LevelForge.Main
import LevelForge.Proofs.Ldl.Respacing
import LevelForge.Proofs.Ldl.RoundTrip
import LevelForge.Proofs.Ldl.Stopping
import LevelForge.Proofs.Level.Arenas
import LevelForge.Proofs.Level.Coins
import LevelForge.Proofs.Level.Legality
import LevelForge.Proofs.Level.Pulling
import LevelForge.Proofs.Level.Tiling
import LevelForge.Proofs.Preview.Listing
import LevelForge.Proofs.Session.Sharing
import LevelForge.Proofs.Ldl.Sealing
import LevelForge.Proofs.Session.Sparing
import LevelForge.Proofs.Session.Sealing
import LevelForge.Proofs.Catalog.Shelf
import LevelForge.Proofs.Session.Catalogs
import LevelForge.Proofs.Preview.Agreement
import LevelForge.Proofs.Segment.BuiltIn
import LevelForge.Proofs.Spawner.Standard
import LevelForge.Proofs.Level.Landmarks
import LevelForge.Proofs.Session.Bosses
import LevelForge.Proofs.Segment.Cells
import LevelForge.Proofs.Ldl.Pieces
import LevelForge.Proofs.Ldl.FirstViolation
import LevelForge.Proofs.Spawner.Groups
import LevelForge.Proofs.Spawner.Picks
import LevelForge.Proofs.Catalog.Availability
import LevelForge.Proofs.Level.Streams
import LevelForge.Proofs.Ldl.Arrow
import LevelForge.Proofs.Preview.Drawing
import LevelForge.Proofs.Catalog.Progression
import LevelForge.Proofs.Ldl.TokenList
import LevelForge.Proofs.Ldl.Reading
