import Pixiu.Basic
import Pixiu.Discovery.Schema
import Pixiu.Discovery.ResourceGetter
import Pixiu.Db.Table
import Pixiu.Db.OptimisticLock
import Pixiu.Db.UserRoles
import Pixiu.Db.Menus
import Pixiu.Core.Kubeconfig
import Pixiu.Core.Cluster
import Pixiu.Core.KubeConfigs
import Pixiu.Core.UpdateRace
import Pixiu.Core.Accounts
import Pixiu.Plan.PlanConfig
import Pixiu.Plan.Clients
import Pixiu.Plan.ReadBack
