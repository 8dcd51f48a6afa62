import StackAws.Types
import StackAws.Assignment
import StackAws.Reconcile
import StackAws.World
import StackAws.PassInvariant
import StackAws.RunInvariant
import StackAws.Creation
import StackAws.Sync
import StackAws.Resolution
import StackAws.Deletion
import StackAws.Exit
import StackAws.Referencers
import StackAws.Removal
import StackAws.Bound
import StackAws.AwsAuth
import StackAws.DeletionMark
import StackAws.ClusterName
import StackAws.LostCreation
import StackAws.Lifecycle
