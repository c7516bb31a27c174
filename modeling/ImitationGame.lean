import ImitationGame.Chat.Client
import ImitationGame.Game.Names
import ImitationGame.Http.Service
import ImitationGame.Job.Sweep
import ImitationGame.Job.Workforce
import ImitationGame.Json.Reading
import ImitationGame.Proofs.Game.Attempt
import ImitationGame.Proofs.Game.Permission
import ImitationGame.Proofs.Game.Rotation
import ImitationGame.Proofs.Game.View
import ImitationGame.Proofs.Play.Disclosure
import ImitationGame.Proofs.Pool.Closing
import ImitationGame.Proofs.Pool.Settling
import ImitationGame.Proofs.Random.Draws
import ImitationGame.Proofs.Random.Seed
import ImitationGame.Proofs.Random.Unbiased
import ImitationGame.Proofs.Settings.Expiry
import ImitationGame.Proofs.Store.Concealment
import ImitationGame.Proofs.Store.Reload
import ImitationGame.Proofs.World.Clean
import ImitationGame.Proofs.World.Exclusive
import ImitationGame.Proofs.World.Finish
import ImitationGame.Proofs.World.Hints
import ImitationGame.Proofs.World.Isolation
import ImitationGame.Proofs.World.Overlap
import ImitationGame.Proofs.World.Ownership
import ImitationGame.Proofs.World.Progress
import ImitationGame.Proofs.World.Quiescence
import ImitationGame.Proofs.World.StaleWrite
import ImitationGame.Settings.Engine
import ImitationGame.Store.Amend
